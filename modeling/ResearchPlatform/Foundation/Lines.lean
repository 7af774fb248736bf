import ResearchPlatform.Foundation.Whitespace

/-!
# Lines

`str.splitlines`, and lines whose white space is collapsed.  Beside white space such lines
keep all characters, and white space at the end of the text does not show.
-/

namespace ResearchPlatform.Foundation

/-- The characters at which `str.splitlines` ends a line. -/
def lineBoundaries : List Nat :=
  [0x0a, 0x0b, 0x0c, 0x0d, 0x1c, 0x1d, 0x1e, 0x85, 0x2028, 0x2029]

def isLineBoundary (char : Char) : Bool := lineBoundaries.contains char.toNat

/-- `str.splitlines`, with the line that has begun. -/
def splitLinesFrom (current : List Char) : List Char → List (List Char)
  | [] => if current = [] then [] else [current]
  | '\r' :: '\n' :: rest => current :: splitLinesFrom [] rest
  | char :: rest =>
      if isLineBoundary char then current :: splitLinesFrom [] rest
      else splitLinesFrom (current ++ [char]) rest

/-- `text.splitlines()`. -/
def splitLines (text : List Char) : List (List Char) := splitLinesFrom [] text

/-- `" ".join(line.split())`. -/
def joinWords (line : List Char) : List Char := [' '].intercalate (splitWords line)

/-- The collapsed lines that are not empty. -/
def collapsedLines (text : List Char) : List (List Char) :=
  ((splitLines text).map joinWords).filter (· ≠ [])

/-! ## The characters that are no white space -/

section Solid

variable {text line rest : List Char} {blank : Char}

/-- The characters of a text that are no white space. -/
def solid (text : List Char) : List Char := text.filter fun char => !isWhitespace char

theorem solid_append : solid (text ++ rest) = solid text ++ solid rest :=
  List.filter_append _ _

theorem solid_of_blank (isBlank : isWhitespace blank = true) : solid (blank :: rest) = solid rest :=
  List.filter_cons_of_neg (by simp [isBlank])

theorem solid_eq_nil_iff : solid text = [] ↔ ∀ char ∈ text, isWhitespace char = true := by
  rw [solid, List.filter_eq_nil_iff]
  simp

theorem solid_intercalate {pieces : List (List Char)} (isBlank : isWhitespace blank = true) :
    solid ([blank].intercalate pieces) = pieces.flatMap solid := by
  induction pieces with
  | nil => rfl
  | cons piece pieces inductionHypothesis =>
      cases pieces with
      | nil => simp
      | cons next pieces =>
          rw [List.intercalate_cons_cons, solid_append, solid_append, inductionHypothesis,
            solid_of_blank isBlank, List.flatMap_cons, List.append_assoc]
          rfl

theorem splitWords_append_blank (isBlank : isWhitespace blank = true) :
    splitWords (line ++ blank :: rest) = splitWords line ++ splitWords rest := by
  rw [splitWords, List.splitOnP_append_cons line rest isBlank, List.filter_append]
  rfl

theorem flatMap_solid_splitOnP : (text.splitOnP isWhitespace).flatMap solid = solid text := by
  induction text with
  | nil => rfl
  | cons char text inductionHypothesis =>
      rw [List.splitOnP_cons_eq_if_modifyHead]
      by_cases isBlank : isWhitespace char = true
      · rw [if_pos isBlank, solid_of_blank isBlank, ← inductionHypothesis]
        rfl
      · have kept : ∀ rest, solid (char :: rest) = char :: solid rest :=
          fun rest => List.filter_cons_of_pos (by simp [isBlank])
        obtain ⟨head, tail, pieces, -⟩ := exists_splitOnP isWhitespace text
        rw [if_neg isBlank, kept, ← inductionHypothesis, pieces, List.modifyHead_cons,
          List.flatMap_cons, List.flatMap_cons, kept, List.cons_append]

/-- The pieces that are dropped hold nothing. -/
theorem flatMap_solid_filter {pieces : List (List Char)} :
    (pieces.filter (· ≠ [])).flatMap solid = pieces.flatMap solid := by
  induction pieces with
  | nil => rfl
  | cons piece pieces inductionHypothesis =>
      by_cases isEmpty : piece = []
      · rw [List.filter_cons_of_neg (by simpa using isEmpty), inductionHypothesis, isEmpty]
        rfl
      · rw [List.filter_cons_of_pos (by simpa using isEmpty), List.flatMap_cons,
          inductionHypothesis, List.flatMap_cons]

/-- Collapsing white space changes nothing else. -/
theorem solid_joinWords : solid (joinWords line) = solid line := by
  rw [joinWords, solid_intercalate (by decide), splitWords, flatMap_solid_filter,
    flatMap_solid_splitOnP]

/-- White space at the end of a line does not show. -/
theorem joinWords_append_blank (isBlank : isWhitespace blank = true) :
    joinWords (line ++ [blank]) = joinWords line := by
  have none : splitWords [] = [] := rfl
  rw [joinWords, splitWords_append_blank isBlank, none, List.append_nil]
  rfl

end Solid

/-! ## Lines one after another -/

section Lines

variable {current text : List Char}

/-- What is kept of one line. -/
def keptLine (line : List Char) : List (List Char) := [joinWords line].filter (· ≠ [])

/-- What is kept of the lines that are still to come. -/
def keptLines (current text : List Char) : List (List Char) :=
  ((splitLinesFrom current text).map joinWords).filter (· ≠ [])

theorem keptLine_nil : keptLine [] = [] := rfl

theorem keptLines_nil : keptLines current [] = keptLine current := by
  by_cases isEmpty : current = []
  · rw [isEmpty]
    rfl
  · rw [keptLines, splitLinesFrom, if_neg isEmpty]
    rfl

/-- A boundary ends the line; of the two characters of `\r\n` each could. -/
theorem keptLines_boundary {char : Char} (ends : isLineBoundary char = true) :
    keptLines current (char :: text) = keptLine current ++ keptLines [] text := by
  have ended : keptLine current ++ keptLines [] text =
      ((current :: splitLinesFrom [] text).map joinWords).filter (· ≠ []) := by
    rw [List.map_cons, ← List.singleton_append, List.filter_append]
    rfl
  by_cases isPair : char = '\r' ∧ text.head? = some '\n'
  · obtain ⟨rfl, isNext⟩ := isPair
    obtain ⟨rest, rfl⟩ := List.head?_eq_some_iff.mp isNext
    have second : keptLines [] ('\n' :: rest) = keptLines [] rest := rfl
    rw [second]
    exact (List.filter_append [joinWords current] _)
  · rw [ended, keptLines, splitLinesFrom]
    · rw [if_pos ends]
    · intro rest isReturn isNext
      exact isPair ⟨isReturn, by rw [isNext]; rfl⟩

theorem keptLines_other {char : Char} (goesOn : isLineBoundary char = false) :
    keptLines current (char :: text) = keptLines (current ++ [char]) text := by
  have noReturn : char ≠ '\r' := by
    rintro rfl
    exact absurd goesOn (by decide)
  rw [keptLines, splitLinesFrom]
  · rw [if_neg (by simp [goesOn])]
    rfl
  · intro rest isReturn
    exact absurd isReturn noReturn

theorem collapsedLines_eq : collapsedLines text = keptLines [] text := rfl

theorem isWhitespace_of_boundary {char : Char} (ends : isLineBoundary char = true) :
    isWhitespace char = true := by
  have listed : char.toNat ∈ lineBoundaries := List.contains_iff_mem.mp ends
  have within : ∀ code ∈ lineBoundaries,
      whitespaceRanges.any (fun range => range.1 ≤ code && code ≤ range.2) = true := by decide
  exact within _ listed

theorem solid_keptLine : (keptLine current).flatMap solid = solid current := by
  rw [keptLine, flatMap_solid_filter, List.flatMap_singleton, solid_joinWords]

/-- No character is lost but white space.  The induction is on what is still to come. -/
theorem solid_keptLines : (keptLines current text).flatMap solid = solid (current ++ text) := by
  induction text generalizing current with
  | nil => rw [keptLines_nil, solid_keptLine, List.append_nil]
  | cons char text inductionHypothesis =>
      by_cases ends : isLineBoundary char = true
      · rw [keptLines_boundary ends, List.flatMap_append, solid_keptLine, inductionHypothesis,
          List.nil_append, solid_append, solid_of_blank (isWhitespace_of_boundary ends)]
      · rw [keptLines_other (Bool.eq_false_iff.mpr ends), inductionHypothesis]
        simp

theorem solid_collapsedLines :
    solid (['\n'].intercalate (collapsedLines text)) = solid text := by
  rw [solid_intercalate (by decide), collapsedLines_eq, solid_keptLines]
  rfl

theorem keptLines_blank {blanks : List Char}
    (areBlank : ∀ char ∈ blanks, isWhitespace char = true) :
    keptLines current blanks = keptLine current := by
  induction blanks generalizing current with
  | nil => exact keptLines_nil
  | cons blank blanks inductionHypothesis =>
      obtain ⟨isBlank, others⟩ := List.forall_mem_cons.mp areBlank
      by_cases ends : isLineBoundary blank = true
      · rw [keptLines_boundary ends, inductionHypothesis others, keptLine_nil, List.append_nil]
      · rw [keptLines_other (Bool.eq_false_iff.mpr ends), inductionHypothesis others, keptLine,
          joinWords_append_blank isBlank]
        rfl

theorem keptLines_append_blank {blanks : List Char}
    (areBlank : ∀ char ∈ blanks, isWhitespace char = true) :
    keptLines current (text ++ blanks) = keptLines current text := by
  induction text generalizing current with
  | nil => rw [List.nil_append, keptLines_blank areBlank, keptLines_nil]
  | cons char text inductionHypothesis =>
      rw [List.cons_append]
      by_cases ends : isLineBoundary char = true
      · rw [keptLines_boundary ends, keptLines_boundary ends, inductionHypothesis]
      · have goesOn := Bool.eq_false_iff.mpr ends
        rw [keptLines_other goesOn, keptLines_other goesOn, inductionHypothesis]

/-- White space at the end of the text does not show. -/
theorem collapsedLines_append_blank {blanks : List Char}
    (areBlank : ∀ char ∈ blanks, isWhitespace char = true) :
    collapsedLines (text ++ blanks) = collapsedLines text :=
  keptLines_append_blank areBlank

/-- The lines of two texts that begin alike are the same only where both go on with the same
characters that are no white space. -/
theorem solid_eq_of_collapsedLines {first second : List Char}
    (same : ['\n'].intercalate (collapsedLines (text ++ first)) =
      ['\n'].intercalate (collapsedLines (text ++ second))) :
    solid first = solid second := by
  have solids := congrArg solid same
  rw [solid_collapsedLines, solid_collapsedLines, solid_append, solid_append] at solids
  exact List.append_cancel_left solids

end Lines

end ResearchPlatform.Foundation
