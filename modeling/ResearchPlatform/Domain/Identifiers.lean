import Mathlib.Data.List.Dedup
import Mathlib.Data.List.Sort
import ResearchPlatform.Foundation.Hexadecimal

/-!
# Identifiers and their text

`UUID` is the value of `uuid.UUID.int`.  `UUID.str` is its canonical text and
`UUID.parse` is the constructor that reads a text.
-/

namespace ResearchPlatform

open Foundation

/-- Microseconds since the epoch: an aware `datetime`. -/
abbrev Timestamp := Int

/-- An identifier of 128 bits. -/
structure UUID where
  int : Fin (2 ^ 128)
  deriving DecidableEq

instance identifierRange : @NeZero Nat Zero.ofOfNat0 (2 ^ 128) := ⟨by decide⟩

namespace UUID

instance (value : Nat) : OfNat UUID value where
  ofNat := ⟨Fin.ofNat (2 ^ 128) value⟩

instance : Inhabited UUID := ⟨0⟩

/-- `str(identifier)`: the digits in groups of 8, 4, 4, 4 and 12. -/
def str (identifier : UUID) : String :=
  let digits := hexDigits 32 identifier.int.val
  String.ofList
    (digits.take 8 ++ '-' :: (digits.drop 8).take 4 ++
      '-' :: (digits.drop 12).take 4 ++ '-' :: (digits.drop 16).take 4 ++
      '-' :: digits.drop 20)

/-- `text.replace(pattern, "")`, for a non-empty pattern. -/
def removeAll (pattern : List Char) : Nat → List Char → List Char
  | _, [] => []
  | 0, text => text
  | fuel + 1, char :: rest =>
      if pattern.isPrefixOf (char :: rest) then
        removeAll pattern fuel ((char :: rest).drop pattern.length)
      else
        char :: removeAll pattern fuel rest

/-- `text.strip("{}")`. -/
def stripBraces (text : List Char) : List Char :=
  let isBrace := fun char : Char => char == '{' || char == '}'
  ((text.dropWhile isBrace).reverse.dropWhile isBrace).reverse

/-- `uuid.UUID(text)`, or `none` where it raises `ValueError`.  The digits are
read as plain digits: the signs and underscores that `int` also takes are not. -/
def parse (text : String) : Option UUID :=
  let chars := text.toList
  let bare := removeAll "urn:".toList chars.length chars
  let bare := removeAll "uuid:".toList bare.length bare
  let digits := (stripBraces bare).filter (· ≠ '-')
  if digits.length = 32 then
    (readHex digits).map fun value => ⟨Fin.ofNat (2 ^ 128) value⟩
  else
    none

/-! ## Reading the canonical text -/

/-- A slice of a text followed by the rest. -/
theorem take_drop_append {digits : List Char} (start count : Nat) :
    (digits.drop start).take count ++ digits.drop (start + count) =
      digits.drop start := by
  rw [← List.drop_drop]
  exact List.take_append_drop count (digits.drop start)

theorem toList_str (identifier : UUID) :
    let digits := hexDigits 32 identifier.int.val
    identifier.str.toList =
      digits.take 8 ++ '-' :: (digits.drop 8).take 4 ++
        '-' :: (digits.drop 12).take 4 ++ '-' :: (digits.drop 16).take 4 ++
        '-' :: digits.drop 20 :=
  String.toList_ofList

/-- A character of a canonical text is a digit or a hyphen. -/
theorem isLowerHex_or_hyphen {identifier : UUID} {char : Char}
    (member : char ∈ identifier.str.toList) : isLowerHex char = true ∨ char = '-' := by
  rw [toList_str] at member
  simp only [List.mem_append, List.mem_cons] at member
  rcases member with
    (((first | rfl | second) | rfl | third) | rfl | fourth) | rfl | last
  · exact Or.inl (isLowerHex_of_mem_hexDigits (List.mem_of_mem_take first))
  · exact Or.inr rfl
  · exact Or.inl
      (isLowerHex_of_mem_hexDigits (List.mem_of_mem_drop (List.mem_of_mem_take second)))
  · exact Or.inr rfl
  · exact Or.inl
      (isLowerHex_of_mem_hexDigits (List.mem_of_mem_drop (List.mem_of_mem_take third)))
  · exact Or.inr rfl
  · exact Or.inl
      (isLowerHex_of_mem_hexDigits (List.mem_of_mem_drop (List.mem_of_mem_take fourth)))
  · exact Or.inr rfl
  · exact Or.inl (isLowerHex_of_mem_hexDigits (List.mem_of_mem_drop last))

/-- Without its hyphens a canonical text is the 32 digits. -/
theorem filter_str (identifier : UUID) :
    identifier.str.toList.filter (· ≠ '-') = hexDigits 32 identifier.int.val := by
  have kept {digits : List Char} (lower : ∀ digit ∈ digits, isLowerHex digit = true) :
      digits.filter (· ≠ '-') = digits := by
    apply List.filter_eq_self.mpr
    intro digit member
    rw [decide_eq_true_eq]
    intro hyphen
    have isLower := lower digit member
    rw [hyphen] at isLower
    exact absurd isLower (by decide)
  let digits := hexDigits 32 identifier.int.val
  have sliced (start count : Nat) :
      ((digits.drop start).take count).filter (· ≠ '-') =
        (digits.drop start).take count :=
    kept fun _ member =>
      isLowerHex_of_mem_hexDigits (List.mem_of_mem_drop (List.mem_of_mem_take member))
  have ended : (digits.drop 20).filter (· ≠ '-') = digits.drop 20 :=
    kept fun _ member => isLowerHex_of_mem_hexDigits (List.mem_of_mem_drop member)
  have hyphens (before after : List Char) :
      (before ++ '-' :: after).filter (· ≠ '-') =
        before.filter (· ≠ '-') ++ after.filter (· ≠ '-') := by
    simp
  have first : (digits.take 8).filter (· ≠ '-') = digits.take 8 := sliced 0 8
  rw [toList_str, hyphens, hyphens, hyphens, hyphens, first, sliced 8, sliced 12,
    sliced 16, ended]
  simp only [List.append_assoc]
  rw [take_drop_append 16 4, take_drop_append 12 4, take_drop_append 8 4,
    List.take_append_drop]

/-- Nothing is removed from a text without the first character of the pattern. -/
theorem removeAll_eq_self {first : Char} {others : List Char} {fuel : Nat}
    {text : List Char} (absent : first ∉ text) :
    removeAll (first :: others) fuel text = text := by
  induction text generalizing fuel with
  | nil => cases fuel <;> rfl
  | cons head tail inductionHypothesis =>
      cases fuel with
      | zero => rfl
      | succ fuel =>
          have different : ¬ first = head := fun same =>
            absent (by simp [same])
          have later : first ∉ tail := fun member =>
            absent (List.mem_cons_of_mem _ member)
          simp [removeAll, List.isPrefixOf, different, inductionHypothesis later]

theorem stripBraces_eq_self {text : List Char}
    (noBrace : ∀ char ∈ text, char ≠ '{' ∧ char ≠ '}') : stripBraces text = text := by
  have kept {chars : List Char} (plain : ∀ char ∈ chars, char ≠ '{' ∧ char ≠ '}') :
      chars.dropWhile (fun char => char == '{' || char == '}') = chars := by
    cases chars with
    | nil => rfl
    | cons head tail =>
        obtain ⟨notOpen, notClose⟩ := plain head List.mem_cons_self
        exact List.dropWhile_cons_of_neg (by simp [notOpen, notClose])
  simp only [stripBraces]
  rw [kept noBrace, kept, List.reverse_reverse]
  intro char member
  exact noBrace char (List.mem_reverse.mp member)

/-- The constructor reads what `str` wrote. -/
theorem parse_str (identifier : UUID) : parse identifier.str = some identifier := by
  have plain {char : Char} (other : isLowerHex char = false) (hyphen : char ≠ '-') :
      char ∉ identifier.str.toList := by
    intro member
    rcases isLowerHex_or_hyphen member with lower | same
    · rw [other] at lower
      cases lower
    · exact hyphen same
  have noBrace : ∀ char ∈ identifier.str.toList, char ≠ '{' ∧ char ≠ '}' := by
    intro char member
    constructor
    · rintro rfl
      exact plain (by decide) (by decide) member
    · rintro rfl
      exact plain (by decide) (by decide) member
  have noUrn : 'u' ∉ identifier.str.toList := plain (by decide) (by decide)
  have urn : "urn:".toList = 'u' :: ['r', 'n', ':'] := by decide
  have uuid : "uuid:".toList = 'u' :: ['u', 'i', 'd', ':'] := by decide
  unfold parse
  simp only [urn, uuid]
  rw [removeAll_eq_self noUrn, removeAll_eq_self noUrn, stripBraces_eq_self noBrace,
    filter_str, length_hexDigits, if_pos rfl, readHex_hexDigits]
  have fits : identifier.int.val % 16 ^ 32 = identifier.int.val :=
    Nat.mod_eq_of_lt identifier.int.isLt
  rw [fits, Option.map_some]
  congr 2
  exact Fin.ofNat_val_eq_self identifier.int

example : (1 : UUID).str = "00000000-0000-0000-0000-000000000001" := by decide

example : parse "00000000-0000-0000-0000-00000000000A" = some 10 := by decide

end UUID

end ResearchPlatform
