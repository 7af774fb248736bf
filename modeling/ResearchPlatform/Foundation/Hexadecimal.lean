import Mathlib.Algebra.Group.Nat.Defs
import Mathlib.Data.List.Basic
import Mathlib.Tactic.Common

/-!
# Hexadecimal digits

Writing a number as a fixed count of lower-case digits, and reading digits of
either case.
-/

namespace ResearchPlatform.Foundation

/-- The lower-case hexadecimal digit of a number below sixteen. -/
def hexDigit (value : Nat) : Char :=
  if value < 10 then Char.ofNat (48 + value) else Char.ofNat (87 + value)

/-- The value of a hexadecimal digit of either case. -/
def hexValue (digit : Char) : Option Nat :=
  let code := digit.toNat
  if 48 ≤ code ∧ code ≤ 57 then some (code - 48)
  else if 97 ≤ code ∧ code ≤ 102 then some (code - 87)
  else if 65 ≤ code ∧ code ≤ 70 then some (code - 55)
  else none

/-- A digit as `hexDigit` writes it. -/
def isLowerHex (digit : Char) : Bool :=
  ('0' ≤ digit && digit ≤ '9') || ('a' ≤ digit && digit ≤ 'f')

/-- The `width` low hexadecimal digits of a number, most significant first. -/
def hexDigits : Nat → Nat → List Char
  | 0, _ => []
  | width + 1, value => hexDigits width (value / 16) ++ [hexDigit (value % 16)]

/-- The value of a text of digits. -/
def readHex (digits : List Char) : Option Nat :=
  digits.foldl (fun read digit =>
    match read, hexValue digit with
    | some value, some next => some (16 * value + next)
    | _, _ => none) (some 0)

theorem isLowerHex_hexDigit {value : Nat} (small : value < 16) :
    isLowerHex (hexDigit value) = true := by
  have everyDigit : ∀ value < 16, isLowerHex (hexDigit value) = true := by decide
  exact everyDigit value small

@[simp]
theorem length_hexDigits (width value : Nat) :
    (hexDigits width value).length = width := by
  induction width generalizing value with
  | zero => rfl
  | succ width inductionHypothesis =>
      rw [hexDigits, List.length_append, inductionHypothesis]
      rfl

theorem isLowerHex_of_mem_hexDigits {width value : Nat} {digit : Char}
    (member : digit ∈ hexDigits width value) : isLowerHex digit = true := by
  induction width generalizing value with
  | zero => cases member
  | succ width inductionHypothesis =>
      rcases List.mem_append.mp member with earlier | last
      · exact inductionHypothesis earlier
      · rw [List.mem_singleton.mp last]
        exact isLowerHex_hexDigit (Nat.mod_lt value (by decide))

theorem hexValue_hexDigit {value : Nat} (small : value < 16) :
    hexValue (hexDigit value) = some value := by
  have everyDigit : ∀ value < 16, hexValue (hexDigit value) = some value := by decide
  exact everyDigit value small

theorem readHex_snoc (digits : List Char) (last : Char) :
    readHex (digits ++ [last]) =
      match readHex digits, hexValue last with
      | some value, some next => some (16 * value + next)
      | _, _ => none := by
  simp [readHex]

/-- Reading what was written gives the digits that fit. -/
theorem readHex_hexDigits (width value : Nat) :
    readHex (hexDigits width value) = some (value % 16 ^ width) := by
  induction width generalizing value with
  | zero => simp [hexDigits, readHex, Nat.mod_one]
  | succ width inductionHypothesis =>
      have last := hexValue_hexDigit (Nat.mod_lt value (by decide : 0 < 16))
      have split : value % 16 ^ (width + 1) =
          16 * (value / 16 % 16 ^ width) + value % 16 := by
        rw [Nat.pow_succ', Nat.mod_mul]
        omega
      rw [hexDigits, readHex_snoc, inductionHypothesis, last, split]

end ResearchPlatform.Foundation
