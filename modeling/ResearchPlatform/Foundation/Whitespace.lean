import Mathlib.Data.List.DropRight
import Mathlib.Tactic.Common

/-!
# White space

`str.isspace`, and the two methods of `str` that go by it.
-/

namespace ResearchPlatform.Foundation

instance lawfulChars : LawfulBEq (List Char) := inferInstance

/-- The code points of `str.isspace`, as inclusive ranges. -/
def whitespaceRanges : List (Nat × Nat) :=
  [(0x09, 0x0d), (0x1c, 0x20), (0x85, 0x85), (0xa0, 0xa0), (0x1680, 0x1680),
    (0x2000, 0x200a), (0x2028, 0x2029), (0x202f, 0x202f), (0x205f, 0x205f),
    (0x3000, 0x3000)]

def isWhitespace (char : Char) : Bool :=
  whitespaceRanges.any fun range => range.1 ≤ char.toNat && char.toNat ≤ range.2

/-- `text.split()`. -/
def splitWords (text : List Char) : List (List Char) :=
  (text.splitOnP isWhitespace).filter (· ≠ [])

/-- The pieces between separators: the first is where the text begins, and each is a part
of the text without a separator. -/
theorem exists_splitOnP {α : Type} (separates : α → Bool) (text : List α) :
    ∃ head tail, text.splitOnP separates = head :: tail ∧ head <+: text ∧
      ∀ piece ∈ head :: tail, piece <:+: text ∧ ∀ item ∈ piece, separates item = false := by
  induction text with
  | nil => exact ⟨[], [], List.splitOnP_nil, List.prefix_rfl, by simp⟩
  | cons first rest inductionHypothesis =>
      obtain ⟨head, tail, pieces, begins, each⟩ := inductionHypothesis
      by_cases isSeparator : separates first = true
      · refine ⟨[], head :: tail, ?_, List.nil_prefix, ?_⟩
        · rw [List.splitOnP_cons_eq_if_modifyHead, if_pos isSeparator, pieces]
        · intro piece member
          rcases List.mem_cons.mp member with rfl | later
          · exact ⟨List.nil_infix, by simp⟩
          · obtain ⟨isPart, free⟩ := each piece later
            exact ⟨isPart.trans (List.suffix_cons first rest).isInfix, free⟩
      · refine ⟨first :: head, tail, ?_, List.cons_prefix_cons.mpr ⟨rfl, begins⟩, ?_⟩
        · rw [List.splitOnP_cons_eq_if_modifyHead, if_neg isSeparator, pieces]
          rfl
        · intro piece member
          rcases List.mem_cons.mp member with rfl | later
          · refine ⟨(List.cons_prefix_cons.mpr ⟨rfl, begins⟩).isInfix, ?_⟩
            intro item among
            rcases List.mem_cons.mp among with rfl | among
            · exact Bool.eq_false_iff.mpr isSeparator
            · exact (each head List.mem_cons_self).2 item among
          · obtain ⟨isPart, free⟩ := each piece (List.mem_cons_of_mem _ later)
            exact ⟨isPart.trans (List.suffix_cons first rest).isInfix, free⟩

/-- An element that does not separate is in a piece. -/
theorem mem_splitOnP {α : Type} {separates : α → Bool} {text : List α} {item : α}
    (member : item ∈ text) (within : separates item = false) :
    ∃ piece ∈ text.splitOnP separates, item ∈ piece := by
  induction text with
  | nil => cases member
  | cons first rest inductionHypothesis =>
      obtain ⟨head, tail, pieces, -⟩ := exists_splitOnP separates rest
      rw [List.splitOnP_cons_eq_if_modifyHead, pieces, List.modifyHead_cons]
      rw [pieces] at inductionHypothesis
      rcases List.mem_cons.mp member with rfl | later
      · rw [if_neg (by simp [within])]
        exact ⟨item :: head, List.mem_cons_self, List.mem_cons_self⟩
      · obtain ⟨piece, among, inside⟩ := inductionHypothesis later
        by_cases isSeparator : separates first = true
        · rw [if_pos isSeparator]
          exact ⟨piece, List.mem_cons_of_mem [] among, inside⟩
        · rw [if_neg isSeparator]
          rcases List.mem_cons.mp among with rfl | among
          · exact ⟨first :: piece, List.mem_cons_self, List.mem_cons_of_mem first inside⟩
          · exact ⟨piece, List.mem_cons_of_mem _ among, inside⟩

/-- A beginning without separators is part of the first piece. -/
theorem splitOnP_append {α : Type} {separates : α → Bool} {before text head : List α}
    {tail : List (List α)} (free : ∀ item ∈ before, separates item = false)
    (pieces : text.splitOnP separates = head :: tail) :
    (before ++ text).splitOnP separates = (before ++ head) :: tail := by
  induction before with
  | nil => exact pieces
  | cons first rest inductionHypothesis =>
      have later := inductionHypothesis fun item member =>
        free item (List.mem_cons_of_mem first member)
      have within : ¬ separates first = true := by simp [free first List.mem_cons_self]
      rw [List.cons_append, List.splitOnP_cons_eq_if_modifyHead, if_neg within, later]
      rfl

/-- A word is a part of the text that is not empty and has no white space. -/
theorem mem_splitWords {text word : List Char} (member : word ∈ splitWords text) :
    word ≠ [] ∧ word <:+: text ∧ ∀ char ∈ word, isWhitespace char = false := by
  obtain ⟨head, tail, pieces, -, each⟩ := exists_splitOnP isWhitespace text
  rw [splitWords, pieces] at member
  obtain ⟨isPiece, isWord⟩ := List.mem_filter.mp member
  exact ⟨by simpa using isWord, each word isPiece⟩

/-- Words that are joined by blanks come apart again. -/
theorem splitWords_intercalate {words : List (List Char)}
    (areWords : ∀ word ∈ words, word ≠ [] ∧ ∀ char ∈ word, isWhitespace char = false) :
    splitWords ([' '].intercalate words) = words := by
  induction words with
  | nil => simp [splitWords]
  | cons word rest inductionHypothesis =>
      obtain ⟨isWord, free⟩ := areWords word List.mem_cons_self
      have others := inductionHypothesis fun other member =>
        areWords other (List.mem_cons_of_mem word member)
      cases rest with
      | nil =>
          rw [List.intercalate_singleton, splitWords, List.splitOnP_eq_singleton free]
          simp [isWord]
      | cons second later =>
          have joined : [' '].intercalate (word :: second :: later) =
              word ++ ' ' :: [' '].intercalate (second :: later) := by
            rw [List.intercalate_cons_cons]
            simp
          have blank : isWhitespace ' ' = true := by decide
          rw [joined, splitWords, List.splitOnP_append_cons_of_forall_mem free ' ' blank,
            List.filter_cons_of_pos (by simpa using isWord)]
          exact congrArg (word :: ·) others

/-- `text.strip()`, over the characters. -/
def trim (text : List Char) : List Char :=
  (text.dropWhile isWhitespace).rdropWhile isWhitespace

/-- `text.strip()`. -/
def strip (text : String) : String :=
  String.ofList
    (((text.toList.dropWhile isWhitespace).reverse.dropWhile isWhitespace).reverse)

theorem toList_strip (text : String) : (strip text).toList = trim text.toList :=
  String.toList_ofList

/-- The text neither begins nor ends with white space. -/
structure Trimmed (text : List Char) : Prop where
  begins : ∀ char ∈ text.head?, isWhitespace char = false
  ends : ∀ char ∈ text.getLast?, isWhitespace char = false

section Trim

variable {before text after : List Char}

theorem dropWhile_whitespace (blank : ∀ char ∈ before, isWhitespace char = true)
    (begins : ∀ char ∈ text.head?, isWhitespace char = false) :
    (before ++ text).dropWhile isWhitespace = text := by
  rw [List.dropWhile_append_of_pos blank]
  cases text with
  | nil => rfl
  | cons first rest =>
      have solid : ¬ isWhitespace first = true := by simp [begins first rfl]
      exact List.dropWhile_cons_of_neg solid

/-- White space around a trimmed text is what `trim` takes away. -/
theorem trim_around (beforeBlank : ∀ char ∈ before, isWhitespace char = true)
    (trimmed : Trimmed text) (afterBlank : ∀ char ∈ after, isWhitespace char = true) :
    trim (before ++ text ++ after) = text := by
  have afterReverse : ∀ char ∈ after.reverse, isWhitespace char = true := by
    simpa using afterBlank
  have ends : ∀ char ∈ text.reverse.head?, isWhitespace char = false := by
    simpa using trimmed.ends
  have begins : ∀ char ∈ (text ++ after).head?, text ≠ [] → isWhitespace char = false := by
    intro char isFirst solid
    rw [List.head?_append_of_ne_nil _ solid] at isFirst
    exact trimmed.begins char isFirst
  cases text with
  | nil =>
      have all : ∀ char ∈ before ++ [] ++ after, isWhitespace char = true := by
        intro char member
        rw [List.append_nil] at member
        rcases List.mem_append.mp member with first | last
        · exact beforeBlank char first
        · exact afterBlank char last
      rw [trim, List.dropWhile_eq_nil_iff.mpr all]
      rfl
  | cons first rest =>
      rw [trim, List.append_assoc, dropWhile_whitespace beforeBlank fun char isFirst =>
        begins char isFirst (by simp), List.rdropWhile, List.reverse_append,
        dropWhile_whitespace afterReverse ends, List.reverse_reverse]

/-- A text is its trimmed text with white space around it. -/
theorem exists_trim (text : List Char) :
    ∃ before after, text = before ++ trim text ++ after ∧
      (∀ char ∈ before, isWhitespace char = true) ∧
      ∀ char ∈ after, isWhitespace char = true := by
  refine ⟨text.takeWhile isWhitespace,
    (text.dropWhile isWhitespace).rtakeWhile isWhitespace, ?_, ?_, ?_⟩
  · rw [List.append_assoc, trim, List.rdropWhile_append_rtakeWhile,
      List.takeWhile_append_dropWhile]
  · exact fun char member => List.mem_takeWhile_imp member
  · exact fun char member => List.mem_rtakeWhile_imp member

theorem trimmed_trim (text : List Char) : Trimmed (trim text) where
  begins := by
    intro char isFirst
    have starts : trim text <+: text.dropWhile isWhitespace := List.rdropWhile_prefix _ _
    have isHead : (text.dropWhile isWhitespace).head? = some char := by
      rw [Option.mem_def, ← List.singleton_prefix_iff_head?_eq_some] at isFirst
      rw [← List.singleton_prefix_iff_head?_eq_some]
      exact isFirst.trans starts
    have solid := List.head?_dropWhile_not isWhitespace text
    rw [isHead] at solid
    simpa using solid
  ends := by
    intro char isLast
    have isSome : trim text ≠ [] := fun isEmpty => by simp [isEmpty] at isLast
    rw [List.getLast?_eq_some_getLast isSome] at isLast
    obtain rfl := Option.mem_some.mp isLast
    exact Bool.eq_false_iff.mpr (List.rdropWhile_last_not _ _ isSome)

/-- Nothing is taken from a trimmed text. -/
theorem Trimmed.trim_eq (trimmed : Trimmed text) : trim text = text := by
  have none : ∀ char ∈ ([] : List Char), isWhitespace char = true := by simp
  have around := trim_around none trimmed none
  rwa [List.nil_append, List.append_nil] at around

/-- Trimming again changes nothing. -/
theorem trim_trim (text : List Char) : trim (trim text) = trim text :=
  (trimmed_trim text).trim_eq

theorem mem_of_mem_trim {char : Char} (member : char ∈ trim text) : char ∈ text := by
  obtain ⟨before, after, whole, -⟩ := exists_trim text
  rw [whole]
  exact List.mem_append_left after (List.mem_append_right before member)

/-- Only white space is taken away. -/
theorem mem_trim_of_mem {char : Char} (solid : isWhitespace char = false)
    (member : char ∈ text) : char ∈ trim text := by
  obtain ⟨before, after, whole, beforeBlank, afterBlank⟩ := exists_trim text
  rw [whole] at member
  rcases List.mem_append.mp member with earlier | last
  · rcases List.mem_append.mp earlier with first | inside
    · simp [beforeBlank char first] at solid
    · exact inside
  · simp [afterBlank char last] at solid

theorem trim_eq_nil : trim text = [] ↔ ∀ char ∈ text, isWhitespace char = true := by
  constructor
  · intro none char member
    by_contra solid
    have kept := mem_trim_of_mem (Bool.eq_false_iff.mpr solid) member
    rw [none] at kept
    cases kept
  · intro blank
    by_contra some
    obtain ⟨first, rest, same⟩ := List.exists_cons_of_ne_nil some
    have solid := (trimmed_trim text).begins first (by rw [same]; rfl)
    rw [blank first (mem_of_mem_trim (same ▸ List.mem_cons_self))] at solid
    cases solid

theorem dropWhile_append_solid {accepts : Char → Bool}
    (solid : ∀ char ∈ text.head?, accepts char = false) :
    (before ++ text).dropWhile accepts = before.dropWhile accepts ++ text := by
  induction before with
  | nil =>
      cases text with
      | nil => rfl
      | cons first rest => exact List.dropWhile_cons_of_neg (by simp [solid first rfl])
  | cons first rest inductionHypothesis =>
      by_cases accepted : accepts first = true
      · simp [accepted, inductionHypothesis]
      · simp [accepted]

/-- A text is trimmed around a part that begins and ends solid. -/
theorem trim_append_solid (some : text ≠ []) (trimmed : Trimmed text) :
    ∃ first last, trim (before ++ (text ++ after)) = first ++ (text ++ last) ∧
      first <:+ before ∧ last <+: after := by
  have begins : ∀ char ∈ (text ++ after).head?, isWhitespace char = false := by
    rw [List.head?_append_of_ne_nil _ some]
    exact trimmed.begins
  have ends : ∀ char ∈ (text.reverse ++ (before.dropWhile isWhitespace).reverse).head?,
      isWhitespace char = false := by
    rw [List.head?_append_of_ne_nil _ (by simpa using some), List.head?_reverse]
    exact trimmed.ends
  refine ⟨before.dropWhile isWhitespace, after.rdropWhile isWhitespace, ?_,
    List.dropWhile_suffix _, List.rdropWhile_prefix _ _⟩
  rw [trim, dropWhile_append_solid begins, List.rdropWhile, List.reverse_append,
    List.reverse_append, List.append_assoc, dropWhile_append_solid ends]
  simp [List.rdropWhile]

/-- A text that begins solid, with a solid character later on, is only trimmed after it. -/
theorem trim_solid {stop : Char} (begins : ∀ char ∈ (before ++ [stop]).head?,
    isWhitespace char = false) (solid : isWhitespace stop = false) :
    trim (before ++ stop :: after) = before ++ stop :: after.rdropWhile isWhitespace := by
  have whole : before ++ stop :: after = (before ++ [stop]) ++ after := by simp
  have starts : (before ++ stop :: after).dropWhile isWhitespace = before ++ stop :: after := by
    cases before with
    | nil => exact List.dropWhile_cons_of_neg (by simp [solid])
    | cons first rest => exact List.dropWhile_cons_of_neg (by simp [begins first rfl])
  rw [trim, starts, whole, List.rdropWhile, List.reverse_append, List.reverse_append,
    List.reverse_singleton, List.dropWhile_append]
  have kept : ([stop] ++ before.reverse).dropWhile isWhitespace = [stop] ++ before.reverse :=
    List.dropWhile_cons_of_neg (by simp [solid])
  rw [kept, List.rdropWhile]
  cases rest : after.reverse.dropWhile isWhitespace with
  | nil => simp
  | cons first later => simp

end Trim

end ResearchPlatform.Foundation
