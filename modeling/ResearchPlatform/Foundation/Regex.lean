import Mathlib.Data.List.TakeWhile
import Mathlib.Tactic.Common

/-!
# Regular expressions

A backtracking matcher, as a list of the places where a match can end, in the order in
which they are tried.  The match is the first of them.
-/

namespace ResearchPlatform.Foundation

/-- A regular expression.  One group is captured, the last to be matched. -/
inductive Regex
  | empty
  | char (accepts : Char → Bool)
  | seq (first second : Regex)
  | alt (first second : Regex)
  | upTo (most : Option Nat) (greedy : Bool) (body : Regex)
  | group (body : Regex)
  | boundary (isWord : Char → Bool)
  | lineStart
  | notAhead (body : Regex)

namespace Regex

/-- A place in a text, between what is before it, the last character first, and what is
after it. -/
structure Place where
  before : List Char
  after : List Char
  captured : List Char := []
  deriving DecidableEq

/-- The places after at most so many rounds. -/
def iterate (greedy : Bool) (round : Place → List Place) : Nat → Place → List Place
  | 0, place => [place]
  | rounds + 1, place =>
      let further := (round place).flatMap (iterate greedy round rounds)
      if greedy then further ++ [place] else place :: further

/-- A word ends or begins at the place. -/
def isBoundary (isWord : Char → Bool) (place : Place) : Bool :=
  place.before.head?.any isWord != place.after.head?.any isWord

/-- The places where a match that begins at the place can end.  A body that is repeated
consumes something in each round, so there are no more rounds than characters. -/
def ends : Regex → Place → List Place
  | empty, place => [place]
  | char accepts, ⟨before, first :: rest, captured⟩ =>
      if accepts first then [⟨first :: before, rest, captured⟩] else []
  | char _, ⟨_, [], _⟩ => []
  | seq first second, place => (first.ends place).flatMap second.ends
  | alt first second, place => first.ends place ++ second.ends place
  | upTo most greedy body, place =>
      iterate greedy body.ends (most.getD place.after.length) place
  | group body, place =>
      (body.ends place).map fun stop =>
        { stop with captured := place.after.take (place.after.length - stop.after.length) }
  | boundary isWord, place => if isBoundary isWord place then [place] else []
  | lineStart, place =>
      if place.before.head?.all (· = '\n') then [place] else []
  | notAhead body, place => if body.ends place = [] then [place] else []

/-- `(?:body)*`. -/
def star (body : Regex) : Regex := upTo none true body

/-- `(?:body)+`. -/
def plus (body : Regex) : Regex := seq body (star body)

/-- A word: a character that begins one, and all those that go on. -/
def word (starts goesOn : Char → Bool) : Regex :=
  group (seq (char starts) (star (char goesOn)))

/-- The pieces of a text that was scanned from the left: a character outside all matches, or
a match with what it captured. -/
inductive Piece where
  | kept (char : Char)
  | matched (text captured : List Char)
  deriving DecidableEq

/-- Scan what is after a place for matches that are not empty; so many characters are still
part of the last one. -/
def pieces (regex : Regex) : Nat → List Char → List Char → List Piece
  | _, _, [] => []
  | left + 1, before, first :: rest => regex.pieces left (first :: before) rest
  | 0, before, first :: rest =>
      match (regex.ends ⟨before, first :: rest, []⟩).head? with
      | none => .kept first :: regex.pieces 0 (first :: before) rest
      | some stop =>
          let size := (first :: rest).length - stop.after.length
          .matched ((first :: rest).take size) stop.captured ::
            regex.pieces (size - 1) (first :: before) rest

/-- `regex.sub(replacement, text)`. -/
def sub (regex : Regex) (replacement text : List Char) : List Char :=
  (regex.pieces 0 [] text).flatMap fun
    | .kept letter => [letter]
    | .matched _ _ => replacement

/-- What each match of `regex.finditer(text)` captured. -/
def findall (regex : Regex) (text : List Char) : List (List Char) :=
  (regex.pieces 0 [] text).filterMap fun
    | .kept _ => none
    | .matched _ captured => some captured

/-- What the match of `regex.search(text)` captured. -/
def search (regex : Regex) (text : List Char) : Option (List Char) :=
  (regex.findall text).head?

/-- `regex.fullmatch(text)` is a match. -/
def fullmatch (regex : Regex) (text : List Char) : Bool :=
  (regex.ends ⟨[], text, []⟩).any fun stop => stop.after = []

/-! ## Characters -/

/-- The character is the small letter, where case is ignored. -/
def ignoringCase (letter read : Char) : Bool :=
  read.toLower = letter || (letter = 'i' && (read = '\u0130' || read = '\u0131')) ||
    (letter = 's' && read = '\u017f') || (letter = 'k' && read = '\u212a')

/-- A text in small letters, where case is ignored. -/
def literal (text : String) : Regex :=
  text.toList.foldr (fun letter rest => seq (char (ignoringCase letter)) rest) empty

/-- One of the texts, where case is ignored. -/
def anyOf : List String → Regex
  | [] => notAhead empty
  | [text] => literal text
  | text :: others => alt (literal text) (anyOf others)

/-- One of the characters. -/
def oneOf (characters : List Char) : Regex := char (· ∈ characters)

/-- None of the characters. -/
def noneOf (characters : List Char) : Regex := char (· ∉ characters)

/-- One after the other. -/
def sequence : List Regex → Regex
  | [] => empty
  | [regex] => regex
  | regex :: others => seq regex (sequence others)

/-! ## Reading a text -/

section Reading

variable {regex : Regex} {before head text captured : List Char} {letter : Char}

/-- A text in which the matches are replaced. -/
def replaced (replacement : List Char) (pieces : List Piece) : List Char :=
  pieces.flatMap fun
    | .kept letter => [letter]
    | .matched _ _ => replacement

theorem sub_eq {replacement : List Char} :
    regex.sub replacement text = replaced replacement (regex.pieces 0 [] text) := rfl

theorem pieces_skip :
    regex.pieces head.length before (head ++ text) =
      regex.pieces 0 (head.reverse ++ before) text := by
  induction head generalizing before with
  | nil => rfl
  | cons first rest inductionHypothesis =>
      rw [List.length_cons, List.cons_append, pieces, inductionHypothesis]
      simp

/-- A match at the place where the scan is. -/
theorem pieces_matched {stop : Place} (nonempty : head ≠ [])
    (found : (regex.ends ⟨before, head ++ text, []⟩).head? = some stop)
    (after : stop.after = text) :
    regex.pieces 0 before (head ++ text) =
      .matched head stop.captured :: regex.pieces 0 (head.reverse ++ before) text := by
  cases head with
  | nil => exact absurd rfl nonempty
  | cons first rest =>
      have size : (first :: (rest ++ text)).length - text.length = rest.length + 1 := by
        simp
        omega
      rw [List.cons_append] at found ⊢
      rw [pieces, found]
      simp only [after, size, Nat.add_sub_cancel, pieces_skip]
      simp

theorem pieces_kept (none : regex.ends ⟨before, letter :: text, []⟩ = []) :
    regex.pieces 0 before (letter :: text) =
      .kept letter :: regex.pieces 0 (letter :: before) text := by
  rw [pieces, none]
  rfl

/-- A part of a text at no place of which a match begins. -/
theorem pieces_quiet
    (quiet : ∀ first second, head = first ++ second → second ≠ [] →
      ∀ before, regex.ends ⟨before, second ++ text, []⟩ = []) :
    regex.pieces 0 before (head ++ text) =
      head.map Piece.kept ++ regex.pieces 0 (head.reverse ++ before) text := by
  induction head generalizing before with
  | nil => rfl
  | cons first rest inductionHypothesis =>
      have none := quiet [] (first :: rest) rfl (List.cons_ne_nil _ _) before
      have later := @inductionHypothesis (first :: before) fun left right whole =>
        quiet (first :: left) right (congrArg (first :: ·) whole)
      rw [List.cons_append] at none ⊢
      rw [pieces_kept none, later]
      simp

theorem replaced_cons {replacement : List Char} {pieces : List Piece} {piece : Piece} :
    replaced replacement (piece :: pieces) =
      replaced replacement [piece] ++ replaced replacement pieces := by
  simp [replaced]

theorem replaced_quiet {replacement : List Char} {pieces : List Piece} :
    replaced replacement (head.map Piece.kept ++ pieces) =
      head ++ replaced replacement pieces := by
  induction head with
  | nil => rfl
  | cons first rest inductionHypothesis =>
      rw [List.map_cons, List.cons_append, replaced_cons, inductionHypothesis]
      rfl

theorem replaced_matched {replacement : List Char} {pieces : List Piece} :
    replaced replacement (.matched text captured :: pieces) =
      replacement ++ replaced replacement pieces := List.flatMap_cons

/-- A text of parts is replaced part by part, where each part is on its own. -/
theorem replaced_flatMap {Item : Type} {items : List Item} {text out : Item → List Char}
    {replacement : List Char}
    (each : ∀ item rest, item :: rest <:+ items → ∀ before,
      replaced replacement (regex.pieces 0 before (text item ++ rest.flatMap text)) =
        out item ++ replaced replacement
          (regex.pieces 0 ((text item).reverse ++ before) (rest.flatMap text))) :
    replaced replacement (regex.pieces 0 before (items.flatMap text)) = items.flatMap out := by
  induction items generalizing before with
  | nil => rfl
  | cons item rest inductionHypothesis =>
      rw [List.flatMap_cons, each item rest (List.suffix_refl _), List.flatMap_cons]
      have later := @inductionHypothesis ((text item).reverse ++ before) fun other more isPart =>
        each other more (isPart.trans (List.suffix_cons item rest))
      rw [later]

theorem ends_seq {first second : Regex} {place : Place} :
    (seq first second).ends place = (first.ends place).flatMap second.ends := rfl

/-- One letter is read. -/
theorem ends_oneOf_seq :
    (seq (oneOf [letter]) regex).ends ⟨before, letter :: text, captured⟩ =
      regex.ends ⟨letter :: before, text, captured⟩ := by
  simp [ends, oneOf]

theorem ends_oneOf_seq_of_ne (other : text.head? ≠ some letter) :
    (seq (oneOf [letter]) regex).ends ⟨before, text, captured⟩ = [] := by
  cases text with
  | nil => rfl
  | cons first rest =>
      have apart : first ≠ letter := by simpa using other
      simp [ends, oneOf, apart]

/-- Two letters are read. -/
theorem ends_pair {first second : Char} :
    (seq (oneOf [first]) (seq (oneOf [second]) regex)).ends
        ⟨before, first :: second :: text, captured⟩ =
      regex.ends ⟨second :: first :: before, text, captured⟩ := by
  rw [ends_oneOf_seq, ends_oneOf_seq]

theorem ends_pair_of_not {first second : Char} (absent : ¬ [first, second] <+: text) :
    (seq (oneOf [first]) (seq (oneOf [second]) regex)).ends ⟨before, text, captured⟩ = [] := by
  by_cases begins : text.head? = some first
  · obtain ⟨rest, rfl⟩ := List.head?_eq_some_iff.mp begins
    rw [ends_oneOf_seq]
    apply ends_oneOf_seq_of_ne
    intro follows
    obtain ⟨later, rfl⟩ := List.head?_eq_some_iff.mp follows
    exact absent ⟨later, rfl⟩
  · exact ends_oneOf_seq_of_ne begins

/-- Two letters are read, and nothing else. -/
theorem ends_last_pair {first second : Char} :
    (seq (oneOf [first]) (oneOf [second])).ends ⟨before, first :: second :: text, captured⟩ =
      [⟨second :: first :: before, text, captured⟩] := by
  rw [ends_oneOf_seq]
  simp [ends, oneOf]

theorem ends_last_pair_of_not {first second : Char} (absent : ¬ [first, second] <+: text) :
    (seq (oneOf [first]) (oneOf [second])).ends ⟨before, text, captured⟩ = [] := by
  by_cases begins : text.head? = some first
  · obtain ⟨rest, rfl⟩ := List.head?_eq_some_iff.mp begins
    rw [ends_oneOf_seq]
    cases rest with
    | nil => rfl
    | cons next later =>
        have apart : next ≠ second := fun same => absent ⟨later, by rw [same]; rfl⟩
        simp [ends, oneOf, apart]
  · exact ends_oneOf_seq_of_ne begins

/-- No match begins in a part of a text in which two letters do not meet. -/
theorem pieces_quiet_pair {first second : Char}
    (absent : ¬ [first, second] <:+: head ++ text.take 1) :
    (seq (oneOf [first]) (seq (oneOf [second]) regex)).pieces 0 before (head ++ text) =
      head.map Piece.kept ++
        (seq (oneOf [first]) (seq (oneOf [second]) regex)).pieces 0
          (head.reverse ++ before) text := by
  apply pieces_quiet
  intro left right whole some place
  apply ends_pair_of_not
  intro begins
  apply absent
  have part : [first, second] <+: right ++ text.take 1 := by
    cases right with
    | nil => exact absurd rfl some
    | cons letter rest =>
        obtain ⟨rfl, further⟩ := List.cons_prefix_cons.mp begins
        apply List.cons_prefix_cons.mpr ⟨rfl, _⟩
        cases rest with
        | nil =>
          cases text with
          | nil => exact further
          | cons next later => simpa using further
        | cons next later => simpa using further
  rw [whole, List.append_assoc]
  exact part.isInfix.trans (List.suffix_append left _).isInfix

/-- No match begins in a part of a text without its first letter. -/
theorem pieces_quiet_letter (absent : letter ∉ head) :
    (seq (oneOf [letter]) regex).pieces 0 before (head ++ text) =
      head.map Piece.kept ++
        (seq (oneOf [letter]) regex).pieces 0 (head.reverse ++ before) text := by
  apply pieces_quiet
  intro left right whole some place
  apply ends_oneOf_seq_of_ne
  intro begins
  cases right with
  | nil => exact some rfl
  | cons first rest =>
      obtain rfl : first = letter := by simpa using begins
      exact absent (by simp [whole])

/-- A greedy repetition first goes as far as it can, where each round has one outcome. -/
theorem head_iterate_greedy {round : Place → List Place} {rounds : Nat} {place next : Place}
    (one : round place = [next]) :
    (iterate true round (rounds + 1) place).head? = (iterate true round rounds next).head? := by
  have reaches : iterate true round rounds next ≠ [] := by
    cases rounds <;> simp [iterate]
  obtain ⟨first, rest, same⟩ := List.exists_cons_of_ne_nil reaches
  simp [iterate, one, same]

theorem iterate_stops {greedy : Bool} {round : Place → List Place} {rounds : Nat} {place : Place}
    (none : round place = []) : iterate greedy round rounds place = [place] := by
  cases rounds <;> simp [iterate, none]

/-- The first way on from the first place is the first of all. -/
theorem head_flatMap {Item Result : Type} {items : List Item} {next : Item → List Result}
    {item : Item} {result : Result} (first : items.head? = some item)
    (found : (next item).head? = some result) : (items.flatMap next).head? = some result := by
  obtain ⟨rest, rfl⟩ := List.head?_eq_some_iff.mp first
  rw [List.flatMap_cons, List.head?_append, found]
  rfl

/-- A greedy star of characters first reads all that are accepted. -/
theorem head_ends_star {accepts : Char → Bool} :
    ((star (char accepts)).ends ⟨before, text, captured⟩).head? =
      some ⟨(text.takeWhile accepts).reverse ++ before, text.dropWhile accepts, captured⟩ := by
  have within (rounds : Nat) (enough : text.length ≤ rounds) :
      (iterate true (char accepts).ends rounds ⟨before, text, captured⟩).head? =
        some ⟨(text.takeWhile accepts).reverse ++ before, text.dropWhile accepts, captured⟩ := by
    induction rounds generalizing text before with
    | zero =>
        obtain rfl := List.length_eq_zero_iff.mp (Nat.le_zero.mp enough)
        rfl
    | succ rounds inductionHypothesis =>
        cases text with
        | nil => rfl
        | cons first rest =>
            by_cases accepted : accepts first = true
            · have one : (char accepts).ends ⟨before, first :: rest, captured⟩ =
                  [⟨first :: before, rest, captured⟩] := by simp [ends, accepted]
              rw [head_iterate_greedy one, inductionHypothesis (Nat.le_of_succ_le_succ enough)]
              simp [accepted]
            · have none : (char accepts).ends ⟨before, first :: rest, captured⟩ = [] := by
                simp [ends, accepted]
              rw [iterate_stops none]
              simp [accepted]
  exact within text.length (Nat.le_refl _)

/-- A lazy star of any characters stops where what is after it first matches. -/
theorem head_ends_lazy {stop : Place}
    (none : ∀ first second, head = first ++ second → second ≠ [] →
      ∀ before, regex.ends ⟨before, second ++ text, captured⟩ = [])
    (found : (regex.ends ⟨head.reverse ++ before, text, captured⟩).head? = some stop) :
    ((seq (upTo .none false (noneOf [])) regex).ends ⟨before, head ++ text, captured⟩).head? =
      some stop := by
  have within (rounds : Nat) (enough : head.length ≤ rounds) :
      ((iterate false (noneOf []).ends rounds ⟨before, head ++ text, captured⟩).flatMap
        regex.ends).head? = some stop := by
    induction rounds generalizing head before with
    | zero =>
        obtain rfl := List.length_eq_zero_iff.mp (Nat.le_zero.mp enough)
        simpa [iterate] using found
    | succ rounds inductionHypothesis =>
        cases head with
        | nil =>
            rw [iterate, List.nil_append]
            simp only [Bool.false_eq_true, if_false, List.flatMap_cons, List.head?_append]
            rw [List.reverse_nil, List.nil_append] at found
            rw [found]
            rfl
        | cons first rest =>
            have here := none [] (first :: rest) rfl (List.cons_ne_nil _ _) before
            have later := @inductionHypothesis (first :: before) rest
              (fun left right whole => none (first :: left) right (congrArg (first :: ·) whole))
              (by simpa using found) (Nat.le_of_succ_le_succ enough)
            have one : (noneOf []).ends ⟨before, first :: (rest ++ text), captured⟩ =
                [⟨first :: before, rest ++ text, captured⟩] := by simp [ends, noneOf]
            rw [List.cons_append] at here ⊢
            simp only [iterate, one, Bool.false_eq_true, if_false, List.flatMap_cons, here,
              List.nil_append, List.flatMap_nil, List.append_nil]
            exact later
  apply within
  simp

/-! ### Words -/

/-- What the matches captured. -/
def captures (pieces : List Piece) : List (List Char) :=
  pieces.filterMap fun
    | .kept _ => none
    | .matched _ captured => some captured

theorem findall_eq : regex.findall text = captures (regex.pieces 0 [] text) := rfl

variable {starts goesOn : Char → Bool} {first : Char} {left right : List Char}

theorem ends_word_of_not (starts_not : starts first = false) :
    (word starts goesOn).ends ⟨before, first :: text, []⟩ = [] := by
  simp [word, ends, starts_not]

/-- A word is read as far as it goes. -/
theorem head_ends_word (isStart : starts first = true) :
    ((word starts goesOn).ends ⟨before, first :: text, []⟩).head? =
      some ⟨(text.takeWhile goesOn).reverse ++ first :: before, text.dropWhile goesOn,
        first :: text.takeWhile goesOn⟩ := by
  have one : (char starts).ends ⟨before, first :: text, []⟩ = [⟨first :: before, text, []⟩] := by
    simp [ends, isStart]
  have whole : first :: text = (first :: text.takeWhile goesOn) ++ text.dropWhile goesOn := by
    rw [List.cons_append, List.takeWhile_append_dropWhile]
  have size : (first :: text).length - (text.dropWhile goesOn).length =
      (first :: text.takeWhile goesOn).length := by
    rw [congrArg List.length whole, List.length_append, Nat.add_sub_cancel]
  rw [word, ends, List.head?_map, ends_seq, one, List.flatMap_singleton, head_ends_star]
  simp only [Option.map_some, size]
  rw [whole, List.take_left' rfl]

theorem pieces_word (isStart : starts first = true) :
    (word starts goesOn).pieces 0 before (first :: text) =
      .matched (first :: text.takeWhile goesOn) (first :: text.takeWhile goesOn) ::
        (word starts goesOn).pieces 0 ((first :: text.takeWhile goesOn).reverse ++ before)
          (text.dropWhile goesOn) := by
  have whole : first :: text = (first :: text.takeWhile goesOn) ++ text.dropWhile goesOn := by
    rw [List.cons_append, List.takeWhile_append_dropWhile]
  have found := @head_ends_word before text starts goesOn first isStart
  rw [whole] at found
  have matched := pieces_matched (List.cons_ne_nil _ _) found rfl
  rwa [← whole] at matched

theorem captures_cons {piece : Piece} {pieces : List Piece} :
    captures (piece :: pieces) = captures [piece] ++ captures pieces := by
  cases piece <;> rfl

/-- Where a text is not at its end, its word stops within it. -/
theorem takeWhile_within (some : left ≠ [])
    (endsBefore : ∀ char ∈ left.getLast?, goesOn char = false) :
    left.dropWhile goesOn ≠ [] ∧
      (left ++ right).takeWhile goesOn = left.takeWhile goesOn ∧
      (left ++ right).dropWhile goesOn = left.dropWhile goesOn ++ right := by
  have remains : left.dropWhile goesOn ≠ [] := by
    intro none
    have last := endsBefore _ (List.getLast_mem_getLast? some)
    rw [List.dropWhile_eq_nil_iff.mp none _ (List.getLast_mem some)] at last
    cases last
  have shorter : ¬ (left.takeWhile goesOn).length = left.length := by
    intro same
    have whole := congrArg List.length (List.takeWhile_append_dropWhile (p := goesOn) (l := left))
    rw [List.length_append, same] at whole
    exact remains (List.length_eq_zero_iff.mp (by omega))
  refine ⟨remains, ?_, ?_⟩
  · rw [List.takeWhile_append, if_neg shorter]
  · rw [List.dropWhile_append, if_neg (by simpa using remains)]

/-- A word between characters that are in none is found. -/
theorem mem_captures_word {rest : List Char}
    (startsGoOn : ∀ char, starts char = true → goesOn char = true)
    (isStart : starts first = true) (allGoOn : ∀ char ∈ rest, goesOn char = true)
    (endsBefore : ∀ char ∈ left.getLast?, goesOn char = false)
    (endsAfter : ∀ char ∈ right.head?, goesOn char = false) :
    first :: rest ∈ captures
      ((word starts goesOn).pieces 0 before (left ++ first :: (rest ++ right))) := by
  generalize size : left.length = length
  induction length using Nat.strong_induction_on generalizing left before with
  | _ length inductionHypothesis =>
      subst size
      cases left with
      | nil =>
          have stops : right.takeWhile goesOn = [] := by
            cases right with
            | nil => rfl
            | cons next later => simp [endsAfter next rfl]
          have reads : (rest ++ right).takeWhile goesOn = rest := by
            rw [List.takeWhile_append_of_pos allGoOn, stops, List.append_nil]
          rw [List.nil_append, pieces_word isStart, reads]
          exact List.mem_cons_self
      | cons letter left =>
          rw [List.cons_append]
          by_cases begins : starts letter = true
          · have some : left ≠ [] := by
              rintro rfl
              have goes := endsBefore letter rfl
              rw [startsGoOn letter begins] at goes
              cases goes
            have endsInside : ∀ char ∈ left.getLast?, goesOn char = false := by
              rwa [List.getLast?_cons_of_ne_nil some] at endsBefore
            obtain ⟨remains, taken, dropped⟩ :=
              @takeWhile_within goesOn left (first :: (rest ++ right)) some endsInside
            rw [pieces_word begins, taken, dropped, captures_cons]
            apply List.mem_append_right
            have shorter := (List.dropWhile_suffix (l := left) goesOn)
            apply inductionHypothesis _ (Nat.lt_succ_of_le shorter.length_le) _ rfl
            intro char isLast
            apply endsInside char
            obtain ⟨before, whole⟩ := shorter
            rw [← whole, List.getLast?_append, isLast]
            rfl
          · have none := @ends_word_of_not before (left ++ first :: (rest ++ right)) starts goesOn
              letter (Bool.eq_false_iff.mpr begins)
            rw [pieces_kept none]
            apply inductionHypothesis left.length (Nat.lt_succ_self _) _ rfl
            intro char isLast
            apply endsBefore char
            rw [List.getLast?_cons, isLast]
            rfl

end Reading

end Regex

end ResearchPlatform.Foundation
