import ResearchPlatform.Foundation.Hexadecimal

/-!
# Codes

A code writes every item as a list of symbols, and a text item by item.  Where no
code word begins another, the text can be read back.  UTF-8 and percent encoding
are such codes.
-/

namespace ResearchPlatform.Foundation

/-! ## Code words that do not begin one another -/

structure PrefixFree {Item Symbol : Type} (code : Item → List Symbol) : Prop where
  nonempty : ∀ item, code item ≠ []
  eq_of_isPrefix : ∀ first second, code first <+: code second → first = second

/-- A text in a prefix-free code determines its items. -/
theorem PrefixFree.flatMap_injective {Item Symbol : Type} {code : Item → List Symbol}
    (isFree : PrefixFree code) :
    Function.Injective fun items : List Item => items.flatMap code := by
  intro first
  induction first with
  | nil =>
      intro second same
      cases second with
      | nil => rfl
      | cons head tail =>
          have empty := (List.append_eq_nil_iff.mp same.symm).1
          exact absurd empty (isFree.nonempty head)
  | cons item items inductionHypothesis =>
      intro second same
      cases second with
      | nil =>
          have empty := (List.append_eq_nil_iff.mp same).1
          exact absurd empty (isFree.nonempty item)
      | cons head tail =>
          have texts : code item ++ items.flatMap code =
              code head ++ tail.flatMap code := same
          have sameItem : item = head := by
            rcases List.prefix_or_prefix_of_prefix ⟨_, rfl⟩ ⟨_, texts.symm⟩ with
              begins | begins
            · exact isFree.eq_of_isPrefix item head begins
            · exact (isFree.eq_of_isPrefix head item begins).symm
          rw [sameItem] at texts ⊢
          rw [inductionHypothesis (List.append_cancel_left texts)]

/-- What comes before the first separator of a text. -/
theorem eq_of_append_separator {Symbol : Type} [DecidableEq Symbol]
    {separator : Symbol} {before first after last : List Symbol}
    (beforeFree : separator ∉ before) (firstFree : separator ∉ first)
    (same : before ++ separator :: after = first ++ separator :: last) :
    before = first ∧ after = last := by
  have upTo {items rest : List Symbol} (free : separator ∉ items) :
      (items ++ separator :: rest).takeWhile (· ≠ separator) = items := by
    rw [List.takeWhile_append_of_pos]
    · simp
    · intro item member
      simpa using ne_of_mem_of_not_mem member free
  have heads : before = first := by
    rw [← upTo beforeFree, same, upTo firstFree]
  rw [heads] at same
  exact ⟨heads, (List.cons.inj (List.append_cancel_left same)).2⟩

/-! ## UTF-8 -/

/-- `text.encode("utf-8")`. -/
def utf8 (text : String) : List UInt8 := text.toList.flatMap String.utf8EncodeChar

theorem utf8_injective : Function.Injective utf8 := by
  intro first second same
  apply String.toByteArray_inj.mp
  rw [← String.utf8Encode_toList, ← String.utf8Encode_toList]
  exact congrArg List.toByteArray same

/-! ## Percent encoding -/

/-- The upper-case hexadecimal digit of a number below sixteen. -/
def upperHexDigit (value : Nat) : Char :=
  if value < 10 then Char.ofNat (48 + value) else Char.ofNat (55 + value)

theorem hexValue_upperHexDigit {value : Nat} (small : value < 16) :
    hexValue (upperHexDigit value) = some value := by
  have everyDigit : ∀ value < 16, hexValue (upperHexDigit value) = some value := by
    decide
  exact everyDigit value small

theorem upperHexDigit_injOn {first second : Nat} (firstSmall : first < 16)
    (secondSmall : second < 16) (same : upperHexDigit first = upperHexDigit second) :
    first = second := by
  have read := hexValue_upperHexDigit firstSmall
  rw [same, hexValue_upperHexDigit secondSmall] at read
  exact (Option.some.inj read).symm

/-- A byte that is kept as it is, or its percent code. -/
def percentCode (kept : UInt8 → Bool) (byte : UInt8) : List Char :=
  if kept byte then [Char.ofUInt8 byte]
  else ['%', upperHexDigit (byte.toNat / 16), upperHexDigit (byte.toNat % 16)]

/-- The character of a byte is none but its own. -/
theorem ofUInt8_injective : Function.Injective Char.ofUInt8 := by
  intro first second same
  exact UInt8.toUInt32_inj.mp (congrArg Char.val same)

/-- Percent codes can be read back where the percent sign itself is not kept. -/
theorem prefixFree_percentCode {kept : UInt8 → Bool} (notPercent : kept 37 = false) :
    PrefixFree (percentCode kept) where
  nonempty := by
    intro byte
    unfold percentCode
    split <;> simp
  eq_of_isPrefix := by
    have notSign {byte : UInt8} (isKept : kept byte = true) :
        Char.ofUInt8 byte ≠ '%' := by
      intro sign
      have isPercent : byte = 37 := ofUInt8_injective sign
      rw [isPercent, notPercent] at isKept
      cases isKept
    intro first second begins
    unfold percentCode at begins
    by_cases firstKept : kept first = true
    · by_cases secondKept : kept second = true
      · rw [if_pos firstKept, if_pos secondKept, List.cons_prefix_cons] at begins
        exact ofUInt8_injective begins.1
      · rw [if_pos firstKept, if_neg secondKept, List.cons_prefix_cons] at begins
        exact absurd begins.1 (notSign firstKept)
    · by_cases secondKept : kept second = true
      · rw [if_neg firstKept, if_pos secondKept, List.cons_prefix_cons] at begins
        exact absurd begins.1.symm (notSign secondKept)
      · rw [if_neg firstKept, if_neg secondKept] at begins
        have words := begins.eq_of_length rfl
        simp only [List.cons.injEq, true_and, and_true] at words
        obtain ⟨high, low⟩ := words
        have firstSmall := first.toNat_lt
        have secondSmall := second.toNat_lt
        have sameHigh : first.toNat / 16 = second.toNat / 16 :=
          upperHexDigit_injOn (by omega) (by omega) high
        have sameLow : first.toNat % 16 = second.toNat % 16 :=
          upperHexDigit_injOn (by omega) (by omega) low
        apply UInt8.toNat_inj.mp
        omega

/-- A character that is neither kept nor part of a percent code does not occur. -/
theorem not_mem_percentCode {kept : UInt8 → Bool} {byte : UInt8} {char : Char}
    (notKept : ∀ other, kept other = true → Char.ofUInt8 other ≠ char)
    (notSign : char ≠ '%') (notDigit : hexValue char = none) :
    char ∉ percentCode kept byte := by
  have notUpper {value : Nat} (small : value < 16) : char ≠ upperHexDigit value := by
    rintro rfl
    rw [hexValue_upperHexDigit small] at notDigit
    cases notDigit
  have small := byte.toNat_lt
  unfold percentCode
  by_cases isKept : kept byte = true
  · rw [if_pos isKept, List.mem_singleton]
    exact (notKept byte isKept).symm
  · rw [if_neg isKept]
    have high : char ≠ upperHexDigit (byte.toNat / 16) := notUpper (by omega)
    have low : char ≠ upperHexDigit (byte.toNat % 16) := notUpper (by omega)
    simp [notSign, high, low]

end ResearchPlatform.Foundation
