import Mathlib.Data.List.TakeWhile
import Mathlib.Tactic.Common

/-!
# The text of a statement

PostgreSQL reads a text from the left: strings between single quotes and names between
double quotes, in which a doubled quote stands for one; comments to the end of the line;
comments between `/*` and `*/`, which nest.  All else is code, in which it finds words,
numbers and symbols.
-/

namespace ResearchPlatform.Foundation.SqlText

/-! ## Segments -/

/-- A part of a text. -/
inductive Segment where
  | code (char : Char)
  | quoted (mark : Char) (body : List Char)
  | lineComment (body stop : List Char)
  | blockComment (body : List Char)
  deriving DecidableEq

/-- The characters of a segment. -/
def Segment.text : Segment → List Char
  | .code char => [char]
  | .quoted mark body => mark :: (body ++ [mark])
  | .lineComment body stop => '-' :: '-' :: (body ++ stop)
  | .blockComment body => '/' :: '*' :: (body ++ ['*', '/'])

def textOf (segments : List Segment) : List Char := segments.flatMap Segment.text

def isQuote (char : Char) : Bool := char = '\'' || char = '"'

def isNewline (char : Char) : Bool := char = '\n' || char = '\r'

/-- Put characters in front of a body that was read. -/
def prepend (chars : List Char) (read : List Char × List Char) : List Char × List Char :=
  (chars ++ read.1, read.2)

/-- Read up to a quote that is not doubled. -/
def readQuoted (mark : Char) : List Char → Option (List Char × List Char)
  | [] => none
  | char :: rest =>
      if char ≠ mark then (readQuoted mark rest).map (prepend [char])
      else
        match rest with
        | [] => some ([], [])
        | next :: later =>
            if next = mark then (readQuoted mark later).map (prepend [mark, mark])
            else some ([], next :: later)

/-- Read up to the end of a comment, within as many further ones. -/
def readBlock : Nat → List Char → Option (List Char × List Char)
  | 0, '*' :: '/' :: rest => some ([], rest)
  | depth + 1, '*' :: '/' :: rest => (readBlock depth rest).map (prepend ['*', '/'])
  | depth, '/' :: '*' :: rest => (readBlock (depth + 1) rest).map (prepend ['/', '*'])
  | depth, char :: rest => (readBlock depth rest).map (prepend [char])
  | _, [] => none

/-- The end of a line, and what is after it. -/
def lineEnd : List Char → List Char × List Char
  | '\r' :: '\n' :: rest => (['\r', '\n'], rest)
  | char :: rest => ([char], rest)
  | [] => ([], [])

/-- The first segment of a text, and what is after it. -/
def readSegment : List Char → Option (Segment × List Char)
  | '-' :: '-' :: rest =>
      let ending := lineEnd (rest.dropWhile (!isNewline ·))
      some (.lineComment (rest.takeWhile (!isNewline ·)) ending.1, ending.2)
  | '/' :: '*' :: rest =>
      (readBlock 0 rest).map fun (body, later) => (.blockComment body, later)
  | char :: rest =>
      if isQuote char then
        (readQuoted char rest).map fun (body, later) => (.quoted char body, later)
      else some (.code char, rest)
  | [] => none

def scanWithin : Nat → List Char → Option (List Segment)
  | _, [] => some []
  | 0, _ :: _ => none
  | fuel + 1, text => do
      let (segment, later) ← readSegment text
      return segment :: (← scanWithin fuel later)

/-- The segments of a text; there are none where a quote or a comment is left open. -/
def scan (text : List Char) : Option (List Segment) := scanWithin text.length text

/-! ## Tokens -/

inductive Token where
  | word (text : List Char)
  | number (text : List Char)
  | quoted (mark : Char) (body : List Char)
  | symbol (char : Char)
  deriving DecidableEq

def isSpace (char : Char) : Bool :=
  char ∈ [' ', '\t', '\n', '\r', '\u000b', '\u000c']

def isWordStart (char : Char) : Bool :=
  char.isAlpha || char = '_' || 128 ≤ char.toNat

def isWordPart (char : Char) : Bool :=
  isWordStart char || char.isDigit || char = '$'

/-- The word or the number that a run of characters makes. -/
def tokenOfRun : List Char → List Token
  | [] => []
  | first :: rest =>
      if isWordStart first then [.word (first :: rest)] else [.number (first :: rest)]

/-- The character goes on a run, or begins one. -/
def joins (run : List Char) (char : Char) : Bool :=
  isWordPart char && (run ≠ [] || char ≠ '$')

/-- The tokens of a text, where `run` is the word or number that is being read. -/
def tokensFrom (run : List Char) : List Segment → List Token
  | [] => tokenOfRun run
  | .code char :: rest =>
      if joins run char then tokensFrom (run ++ [char]) rest
      else if isSpace char then tokenOfRun run ++ tokensFrom [] rest
      else tokenOfRun run ++ .symbol char :: tokensFrom [] rest
  | .quoted mark body :: rest => tokenOfRun run ++ .quoted mark body :: tokensFrom [] rest
  | .lineComment _ _ :: rest => tokenOfRun run ++ tokensFrom [] rest
  | .blockComment _ :: rest => tokenOfRun run ++ tokensFrom [] rest

def tokens (segments : List Segment) : List Token := tokensFrom [] segments

/-- The statements of a text: what is between semicolons, where there is anything. -/
def statements (tokens : List Token) : List (List Token) :=
  (tokens.splitOnP (· = .symbol ';')).filter (· ≠ [])

/-- A word in small letters. -/
def fold (word : List Char) : List Char := word.map Char.toLower

/-! ## What is read -/

section Reading

variable {mark char : Char} {text body later other : List Char} {depth : Nat}

/-- Every mark in the text is followed by another. -/
def isDoubled (mark : Char) : List Char → Bool
  | [] => true
  | char :: rest =>
      if char ≠ mark then isDoubled mark rest
      else
        match rest with
        | [] => false
        | next :: later => next = mark && isDoubled mark later

theorem map_prepend_eq_some {chars : List Char} {read : Option (List Char × List Char)} :
    read.map (prepend chars) = some (body, later) ↔
      ∃ rest, read = some (rest, later) ∧ body = chars ++ rest := by
  constructor
  · intro mapped
    obtain ⟨⟨rest, after⟩, found, same⟩ := Option.map_eq_some_iff.mp mapped
    obtain ⟨rfl, rfl⟩ := Prod.mk.inj same
    exact ⟨rest, found, rfl⟩
  · intro found
    obtain ⟨rest, rfl, rfl⟩ := found
    rfl

theorem readQuoted_cons (differs : char ≠ mark) :
    readQuoted mark (char :: text) = (readQuoted mark text).map (prepend [char]) := by
  rw [readQuoted.eq_def]
  exact if_pos differs

theorem readQuoted_doubled :
    readQuoted mark (mark :: mark :: text) =
      (readQuoted mark text).map (prepend [mark, mark]) := by
  rw [readQuoted.eq_def]
  simp

theorem readQuoted_closed (ends : later.head? ≠ some mark) :
    readQuoted mark (mark :: later) = some ([], later) := by
  rw [readQuoted.eq_def]
  cases later with
  | nil => simp
  | cons next rest =>
      have apart : next ≠ mark := by simpa using ends
      simp [apart]

/-- A body is read to the first quote that is not doubled. -/
theorem readQuoted_append (doubled : isDoubled mark body = true)
    (ends : later.head? ≠ some mark) :
    readQuoted mark (body ++ mark :: later) = some (body, later) := by
  fun_induction isDoubled mark body with
  | case1 => exact readQuoted_closed ends
  | case2 char rest differs inductionHypothesis =>
      rw [List.cons_append, readQuoted_cons differs, inductionHypothesis doubled]
      rfl
  | case3 => cases doubled
  | case4 char same next rest inductionHypothesis =>
      obtain rfl : char = mark := not_not.mp same
      obtain ⟨isMark, doubled⟩ := (Bool.and_eq_true _ _).mp doubled
      obtain rfl : next = char := of_decide_eq_true isMark
      rw [List.cons_append, List.cons_append, readQuoted_doubled, inductionHypothesis doubled]
      rfl

theorem readQuoted_eq_some (found : readQuoted mark text = some (body, later)) :
    text = body ++ mark :: later ∧ isDoubled mark body = true ∧ later.head? ≠ some mark := by
  fun_induction readQuoted mark text generalizing body with
  | case1 => cases found
  | case2 char rest differs inductionHypothesis =>
      obtain ⟨body, read, rfl⟩ := map_prepend_eq_some.mp found
      obtain ⟨rfl, doubled, ends⟩ := inductionHypothesis read
      refine ⟨rfl, ?_, ends⟩
      rw [isDoubled.eq_def]
      exact (if_pos differs).trans doubled
  | case3 char same =>
      obtain rfl : char = mark := not_not.mp same
      obtain ⟨rfl, rfl⟩ := Prod.mk.inj (Option.some.inj found)
      exact ⟨rfl, rfl, by simp⟩
  | case4 char same rest inductionHypothesis =>
      obtain rfl : char = mark := not_not.mp same
      obtain ⟨body, read, rfl⟩ := map_prepend_eq_some.mp found
      obtain ⟨rfl, doubled, ends⟩ := inductionHypothesis read
      refine ⟨rfl, ?_, ends⟩
      rw [isDoubled.eq_def]
      simpa using doubled
  | case5 char same next rest differs =>
      obtain rfl : char = mark := not_not.mp same
      obtain ⟨rfl, rfl⟩ := Prod.mk.inj (Option.some.inj found)
      exact ⟨rfl, rfl, by simpa using differs⟩

theorem readBlock_begin :
    readBlock depth ('/' :: '*' :: text) =
      (readBlock (depth + 1) text).map (prepend ['/', '*']) := by
  cases depth <;> rfl

theorem readBlock_cons (notEnd : ¬ (char = '*' ∧ text.head? = some '/'))
    (notBegin : ¬ (char = '/' ∧ text.head? = some '*')) :
    readBlock depth (char :: text) = (readBlock depth text).map (prepend [char]) := by
  rw [readBlock.eq_def]
  split
  · rename_i same
    obtain ⟨rfl, rfl⟩ := List.cons.inj same
    exact absurd ⟨rfl, rfl⟩ notEnd
  · rename_i same
    obtain ⟨rfl, rfl⟩ := List.cons.inj same
    exact absurd ⟨rfl, rfl⟩ notEnd
  · rename_i same
    obtain ⟨rfl, rfl⟩ := List.cons.inj same
    exact absurd ⟨rfl, rfl⟩ notBegin
  · rename_i same
    obtain ⟨rfl, rfl⟩ := List.cons.inj same
    rfl
  · rename_i same
    cases same

/-- Where a comment ends does not depend on what follows it. -/
theorem readBlock_eq_some (found : readBlock depth text = some (body, later)) :
    text = body ++ '*' :: '/' :: later ∧
      ∀ other, readBlock depth (body ++ '*' :: '/' :: other) = some (body, other) := by
  fun_induction readBlock depth text generalizing body with
  | case1 rest =>
      obtain ⟨rfl, rfl⟩ := Prod.mk.inj (Option.some.inj found)
      exact ⟨rfl, fun _ => rfl⟩
  | case2 depth rest inductionHypothesis =>
      obtain ⟨body, read, rfl⟩ := map_prepend_eq_some.mp found
      obtain ⟨rfl, same⟩ := inductionHypothesis read
      refine ⟨rfl, fun other => ?_⟩
      exact map_prepend_eq_some.mpr ⟨body, same other, rfl⟩
  | case3 depth rest inductionHypothesis =>
      obtain ⟨body, read, rfl⟩ := map_prepend_eq_some.mp found
      obtain ⟨rfl, same⟩ := inductionHypothesis read
      refine ⟨rfl, fun other => ?_⟩
      exact readBlock_begin.trans (map_prepend_eq_some.mpr ⟨body, same other, rfl⟩)
  | case4 depth char rest notEnd notEnds notBegin inductionHypothesis =>
      obtain ⟨body, read, rfl⟩ := map_prepend_eq_some.mp found
      obtain ⟨rfl, same⟩ := inductionHypothesis read
      refine ⟨rfl, fun other => ?_⟩
      have sameHead : (body ++ '*' :: '/' :: other).head? =
          (body ++ '*' :: '/' :: later).head? := by
        cases body <;> rfl
      apply (readBlock_cons ?_ ?_).trans (map_prepend_eq_some.mpr ⟨body, same other, rfl⟩)
      · intro isEnd
        rw [sameHead] at isEnd
        obtain ⟨rest, begins⟩ := List.head?_eq_some_iff.mp isEnd.2
        cases depth with
        | zero => exact notEnd rest rfl isEnd.1 begins
        | succ depth => exact notEnds depth rest rfl isEnd.1 begins
      · intro isBegin
        rw [sameHead] at isBegin
        obtain ⟨rest, begins⟩ := List.head?_eq_some_iff.mp isBegin.2
        exact notBegin rest isBegin.1 begins
  | case5 => cases found

theorem lineEnd_append : (lineEnd text).1 ++ (lineEnd text).2 = text := by
  unfold lineEnd
  split <;> rfl

/-- A segment is read from the beginning of a text. -/
theorem readSegment_eq_some {segment : Segment} (found : readSegment text = some (segment, later)) :
    text = segment.text ++ later := by
  unfold readSegment at found
  split at found
  · rename_i rest
    obtain ⟨rfl, rfl⟩ := Prod.mk.inj (Option.some.inj found)
    simp only [Segment.text, List.cons_append, List.append_assoc]
    rw [lineEnd_append, List.takeWhile_append_dropWhile]
  · obtain ⟨⟨body, after⟩, read, same⟩ := Option.map_eq_some_iff.mp found
    obtain ⟨rfl, rfl⟩ := Prod.mk.inj same
    rw [(readBlock_eq_some read).1]
    simp [Segment.text]
  · split at found
    · obtain ⟨⟨body, after⟩, read, same⟩ := Option.map_eq_some_iff.mp found
      obtain ⟨rfl, rfl⟩ := Prod.mk.inj same
      rw [(readQuoted_eq_some read).1]
      simp [Segment.text]
    · obtain ⟨rfl, rfl⟩ := Prod.mk.inj (Option.some.inj found)
      rfl
  · cases found

/-- The segment is what is read first, where the text goes on like this. -/
def Segment.Fits (segment : Segment) (later : List Char) : Prop :=
  readSegment (segment.text ++ later) = some (segment, later)

/-- Each segment is what is read before the ones after it. -/
def AllFit : List Segment → Prop
  | [] => True
  | segment :: rest => segment.Fits (textOf rest) ∧ AllFit rest

theorem AllFit.fits_of_suffix {segments rest : List Segment} {segment : Segment}
    (fit : AllFit segments) (isPart : segment :: rest <:+ segments) :
    segment.Fits (textOf rest) := by
  obtain ⟨before, rfl⟩ := isPart
  induction before with
  | nil => exact fit.1
  | cons other before inductionHypothesis => exact inductionHypothesis fit.2

theorem textOf_cons {segment : Segment} {rest : List Segment} :
    textOf (segment :: rest) = segment.text ++ textOf rest := List.flatMap_cons

theorem Segment.text_ne_nil (segment : Segment) : segment.text ≠ [] := by
  cases segment <;> exact List.cons_ne_nil _ _

theorem textOf_eq_nil {segments : List Segment} (isEmpty : textOf segments = []) :
    segments = [] := by
  cases segments with
  | nil => rfl
  | cons segment rest =>
      rw [textOf_cons] at isEmpty
      exact absurd (List.append_eq_nil_iff.mp isEmpty).1 segment.text_ne_nil

theorem scanWithin_eq_some {fuel : Nat} {segments : List Segment}
    (enough : text.length ≤ fuel) :
    scanWithin fuel text = some segments ↔ text = textOf segments ∧ AllFit segments := by
  induction fuel generalizing text segments with
  | zero =>
      obtain rfl := List.length_eq_zero_iff.mp (Nat.le_zero.mp enough)
      constructor
      · intro found
        obtain rfl := Option.some.inj found
        exact ⟨rfl, trivial⟩
      · intro read
        obtain rfl := textOf_eq_nil read.1.symm
        rfl
  | succ fuel inductionHypothesis =>
      cases text with
      | nil =>
          constructor
          · intro found
            obtain rfl := Option.some.inj found
            exact ⟨rfl, trivial⟩
          · intro read
            obtain rfl := textOf_eq_nil read.1.symm
            rfl
      | cons char text =>
          have less {segment : Segment} {later : List Char}
              (whole : char :: text = segment.text ++ later) : later.length ≤ fuel := by
            have size := congrArg List.length whole
            have positive := List.length_pos_iff.mpr segment.text_ne_nil
            simp only [List.length_cons, List.length_append] at size enough
            omega
          simp only [scanWithin, Option.bind_eq_bind, Option.pure_def, Option.bind_eq_some_iff]
          constructor
          · intro found
            obtain ⟨⟨segment, later⟩, read, rest, scanned, same⟩ := found
            obtain rfl := Option.some.inj same
            have whole := readSegment_eq_some read
            obtain ⟨rfl, fit⟩ := (inductionHypothesis (less whole)).mp scanned
            rw [whole] at read
            exact ⟨whole.trans textOf_cons.symm, read, fit⟩
          · intro read
            obtain ⟨whole, fit⟩ := read
            cases segments with
            | nil => cases whole
            | cons segment rest =>
                rw [textOf_cons] at whole
                have scanned := (inductionHypothesis (less whole)).mpr ⟨rfl, fit.2⟩
                have first : readSegment (char :: text) = some (segment, textOf rest) := by
                  rw [whole]
                  exact fit.1
                exact ⟨_, first, rest, scanned, rfl⟩

/-- The segments of a text are those that make it up and fit one after the other. -/
theorem scan_eq_some {segments : List Segment} :
    scan text = some segments ↔ text = textOf segments ∧ AllFit segments :=
  scanWithin_eq_some (Nat.le_refl _)

/-! ### What fits -/

theorem readSegment_other (notLine : ¬ (char = '-' ∧ text.head? = some '-'))
    (notBlock : ¬ (char = '/' ∧ text.head? = some '*')) :
    readSegment (char :: text) =
      if isQuote char then
        (readQuoted char text).map fun (body, later) => (.quoted char body, later)
      else some (.code char, text) := by
  rw [readSegment.eq_def]
  split
  · rename_i same
    obtain ⟨rfl, rfl⟩ := List.cons.inj same
    exact absurd ⟨rfl, rfl⟩ notLine
  · rename_i same
    obtain ⟨rfl, rfl⟩ := List.cons.inj same
    exact absurd ⟨rfl, rfl⟩ notBlock
  · rename_i same
    obtain ⟨rfl, rfl⟩ := List.cons.inj same
    rfl
  · rename_i same
    cases same

theorem fits_code :
    (Segment.code char).Fits later ↔ isQuote char = false ∧
      ¬ (char = '-' ∧ later.head? = some '-') ∧ ¬ (char = '/' ∧ later.head? = some '*') := by
  unfold Segment.Fits Segment.text
  rw [List.singleton_append]
  by_cases isLine : char = '-' ∧ later.head? = some '-'
  · obtain ⟨rfl, begins⟩ := isLine
    obtain ⟨rest, rfl⟩ := List.head?_eq_some_iff.mp begins
    simp [readSegment]
  · by_cases isBlock : char = '/' ∧ later.head? = some '*'
    · obtain ⟨rfl, begins⟩ := isBlock
      obtain ⟨rest, rfl⟩ := List.head?_eq_some_iff.mp begins
      simp [readSegment]
    · rw [readSegment_other isLine isBlock]
      by_cases quote : isQuote char = true
      · simp [quote]
      · simp [quote, isLine, isBlock]

theorem fits_quoted :
    (Segment.quoted mark body).Fits later ↔
      isQuote mark = true ∧ isDoubled mark body = true ∧ later.head? ≠ some mark := by
  unfold Segment.Fits Segment.text
  rw [List.cons_append, List.append_assoc, List.singleton_append]
  by_cases isLine : mark = '-' ∧ (body ++ mark :: later).head? = some '-'
  · obtain ⟨rfl, begins⟩ := isLine
    obtain ⟨rest, same⟩ := List.head?_eq_some_iff.mp begins
    simp [readSegment, same, isQuote]
  · by_cases isBlock : mark = '/' ∧ (body ++ mark :: later).head? = some '*'
    · obtain ⟨rfl, begins⟩ := isBlock
      obtain ⟨rest, same⟩ := List.head?_eq_some_iff.mp begins
      simp [readSegment, same, isQuote]
    · rw [readSegment_other isLine isBlock]
      by_cases quote : isQuote mark = true
      · rw [if_pos quote]
        constructor
        · intro found
          obtain ⟨⟨other, after⟩, read, same⟩ := Option.map_eq_some_iff.mp found
          cases same
          exact ⟨quote, (readQuoted_eq_some read).2⟩
        · intro fits
          rw [readQuoted_append fits.2.1 fits.2.2]
          rfl
      · simp [quote]

theorem lineEnd_eq {stop : List Char} (begins : ∀ char ∈ text.head?, isNewline char = true) :
    lineEnd text = (stop, later) ↔ text = stop ++ later ∧
      ((stop = [] ∧ later = []) ∨ stop = ['\n'] ∨ stop = ['\r', '\n'] ∨
        (stop = ['\r'] ∧ later.head? ≠ some '\n')) := by
  constructor
  · intro read
    have whole := @lineEnd_append text
    rw [read] at whole
    refine ⟨whole.symm, ?_⟩
    unfold lineEnd at read
    split at read
    · obtain ⟨rfl, rfl⟩ := Prod.mk.inj read
      exact Or.inr (Or.inr (Or.inl rfl))
    · rename_i char rest notBoth
      obtain ⟨rfl, rfl⟩ := Prod.mk.inj read
      have isNewline := begins char rfl
      rcases (Bool.or_eq_true _ _).mp isNewline with isFeed | isReturn
      · obtain rfl := of_decide_eq_true isFeed
        exact Or.inr (Or.inl rfl)
      · obtain rfl := of_decide_eq_true isReturn
        refine Or.inr (Or.inr (Or.inr ⟨rfl, fun feeds => ?_⟩))
        obtain ⟨more, rfl⟩ := List.head?_eq_some_iff.mp feeds
        exact notBoth more rfl rfl
    · obtain ⟨rfl, rfl⟩ := Prod.mk.inj read
      exact Or.inl ⟨rfl, rfl⟩
  · intro parts
    obtain ⟨rfl, kinds⟩ := parts
    rcases kinds with ⟨rfl, rfl⟩ | rfl | rfl | ⟨rfl, notFeed⟩
    · rfl
    · rfl
    · rfl
    · cases later with
      | nil => rfl
      | cons char rest =>
          have apart : char ≠ '\n' := by simpa using notFeed
          simp [lineEnd, apart]

theorem fits_lineComment {stop : List Char} :
    (Segment.lineComment body stop).Fits later ↔
      (∀ char ∈ body, isNewline char = false) ∧
        ((stop = [] ∧ later = []) ∨ stop = ['\n'] ∨ stop = ['\r', '\n'] ∨
          (stop = ['\r'] ∧ later.head? ≠ some '\n')) := by
  have begins : ∀ char ∈ ((body ++ (stop ++ later)).dropWhile (!isNewline ·)).head?,
      isNewline char = true := by
    intro char isFirst
    have solid := List.head?_dropWhile_not (!isNewline ·) (body ++ (stop ++ later))
    rw [isFirst] at solid
    simpa using solid
  unfold Segment.Fits Segment.text
  simp only [List.cons_append, List.append_assoc, readSegment, Option.some.injEq,
    Prod.mk.injEq, Segment.lineComment.injEq]
  constructor
  · intro read
    obtain ⟨⟨sameBody, sameStop⟩, sameLater⟩ := read
    have free : ∀ char ∈ body, isNewline char = false := by
      intro char member
      rw [← sameBody] at member
      simpa using List.mem_takeWhile_imp member
    exact ⟨free, ((lineEnd_eq begins).mp (Prod.ext sameStop sameLater)).2⟩
  · intro fits
    obtain ⟨free, kinds⟩ := fits
    have solid : ∀ char ∈ body, (!isNewline char) = true := by simpa using free
    have ends : (stop ++ later).takeWhile (!isNewline ·) = [] := by
      rcases kinds with ⟨rfl, rfl⟩ | rfl | rfl | ⟨rfl, -⟩
      · rfl
      · rfl
      · rfl
      · rfl
    have after : (body ++ (stop ++ later)).dropWhile (!isNewline ·) = stop ++ later := by
      have whole := List.takeWhile_append_dropWhile (p := (!isNewline ·)) (l := stop ++ later)
      rw [ends, List.nil_append] at whole
      rw [List.dropWhile_append_of_pos solid, whole]
    have read := (lineEnd_eq begins).mpr ⟨after, kinds⟩
    rw [List.takeWhile_append_of_pos solid, ends, read]
    simp

theorem fits_blockComment :
    (Segment.blockComment body).Fits later ↔
      readBlock 0 (body ++ ['*', '/']) = some (body, []) := by
  unfold Segment.Fits Segment.text
  simp only [List.cons_append, List.append_assoc, readSegment, List.nil_append]
  constructor
  · intro found
    obtain ⟨⟨other, after⟩, read, same⟩ := Option.map_eq_some_iff.mp found
    cases same
    exact (readBlock_eq_some read).2 []
  · intro read
    rw [(readBlock_eq_some read).2 later]
    rfl

/-- A comment without a further one in it ends where it first can. -/
theorem readBlock_flat (read : readBlock 0 text = some (body, later))
    (flat : ¬ ['/', '*'] <:+: body) : ¬ ['*', '/'] <:+: body ++ ['*'] := by
  generalize isOuter : 0 = depth at read
  fun_induction readBlock depth text generalizing body with
  | case1 =>
      obtain ⟨rfl, rfl⟩ := Prod.mk.inj (Option.some.inj read)
      intro isPart
      exact absurd isPart.length_le (by decide)
  | case2 => cases isOuter
  | case3 =>
      obtain ⟨body, -, rfl⟩ := map_prepend_eq_some.mp read
      exact absurd (List.prefix_append _ _).isInfix flat
  | case4 depth char rest notEnd notEnds notBegin inductionHypothesis =>
      obtain ⟨body, inner, rfl⟩ := map_prepend_eq_some.mp read
      obtain ⟨rfl, -⟩ := readBlock_eq_some inner
      have further := inductionHypothesis
        (fun isPart => flat (isPart.trans (List.suffix_append _ _).isInfix)) isOuter inner
      intro isPart
      rcases List.infix_cons_iff.mp isPart with begins | inside
      · obtain ⟨rfl, rest⟩ := List.cons_prefix_cons.mp begins
        obtain ⟨more, same⟩ := rest
        subst isOuter
        cases body with
        | nil => cases same
        | cons first body =>
            obtain ⟨rfl, -⟩ := List.cons.inj same
            exact notEnd _ rfl rfl rfl
      · exact further inside
  | case5 => cases read

end Reading

end ResearchPlatform.Foundation.SqlText
