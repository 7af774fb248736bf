import Mathlib.Data.List.Basic
import Mathlib.Tactic.Common

/-!
# Prefix codes

Texts written one after the other, which can be told apart again: because each text says
itself where it ends, because a symbol it cannot contain follows, or because a separator
stands between two of them.
-/

namespace ResearchPlatform.Foundation

variable {Item Symbol : Type}

/-- From a text and what follows it, both the item and what follows can be told. -/
def IsPrefixCode (write : Item → List Symbol) : Prop :=
  ∀ ⦃first second rest other⦄, write first ++ rest = write second ++ other →
    first = second ∧ rest = other

/-- What can be read back is a prefix code. -/
theorem isPrefixCode_of_read {write : Item → List Symbol}
    {read : List Symbol → Option (Item × List Symbol)}
    (reads : ∀ item rest, read (write item ++ rest) = some (item, rest)) :
    IsPrefixCode write := by
  intro first second rest other same
  have both : some (first, rest) = some (second, other) := by
    rw [← reads first rest, same, reads second other]
  exact Prod.mk.inj (Option.some.inj both)

/-- The text begins, and not with the symbol that closes. -/
def BeginsUnlike (close : Symbol) (text : List Symbol) : Prop :=
  ∃ symbol tail, text = symbol :: tail ∧ symbol ≠ close

/-- Items in a prefix code, up to a symbol with which none of them begins. -/
theorem IsPrefixCode.flatMap_inj {write : Item → List Symbol} (code : IsPrefixCode write)
    {stop : Symbol} (begins : ∀ item, BeginsUnlike stop (write item))
    {items others : List Item} {rest other : List Symbol}
    (same : items.flatMap write ++ stop :: rest = others.flatMap write ++ stop :: other) :
    items = others ∧ rest = other := by
  induction items generalizing others with
  | nil =>
      cases others with
      | nil => exact ⟨rfl, (List.cons.inj same).2⟩
      | cons second others =>
          obtain ⟨symbol, tail, isText, differs⟩ := begins second
          rw [List.flatMap_cons, isText] at same
          exact absurd (List.cons.inj same).1.symm differs
  | cons first items inductionHypothesis =>
      cases others with
      | nil =>
          obtain ⟨symbol, tail, isText, differs⟩ := begins first
          rw [List.flatMap_cons, isText] at same
          exact absurd (List.cons.inj same).1 differs
      | cons second others =>
          rw [List.flatMap_cons, List.flatMap_cons, List.append_assoc,
            List.append_assoc] at same
          obtain ⟨rfl, later⟩ := code same
          obtain ⟨rfl, sameRest⟩ := inductionHypothesis later
          exact ⟨rfl, sameRest⟩

/-- A text of some symbols, followed by one that is none of them or by nothing. -/
theorem append_inj_of_outside {inside : Symbol → Bool} {first second rest other : List Symbol}
    (isInside : ∀ symbol ∈ first, inside symbol = true)
    (isOther : ∀ symbol ∈ second, inside symbol = true)
    (ends : ∀ symbol ∈ rest.head?, inside symbol = false)
    (otherEnds : ∀ symbol ∈ other.head?, inside symbol = false)
    (same : first ++ rest = second ++ other) : first = second ∧ rest = other := by
  have none {text : List Symbol} (stops : ∀ symbol ∈ text.head?, inside symbol = false) :
      text.takeWhile inside = [] := by
    cases text with
    | nil => rfl
    | cons symbol tail => exact List.takeWhile_cons_of_neg (by simp [stops symbol rfl])
  have both := congrArg (List.takeWhile inside) same
  rw [List.takeWhile_append_of_pos isInside, List.takeWhile_append_of_pos isOther, none ends,
    none otherEnds, List.append_nil, List.append_nil] at both
  subst both
  exact ⟨rfl, List.append_cancel_left same⟩

/-- Two texts, followed by what may end them, are the same and end at the same place. -/
def EndTogether (ends : List Symbol → Prop) (first second : List Symbol) : Prop :=
  ∀ ⦃rest other⦄, ends rest → ends other → first ++ rest = second ++ other →
    first = second ∧ rest = other

/-- What follows the first of some parts. -/
def afterFirst (separator close : Symbol) (rest : List Symbol) :
    List (List Symbol) → List Symbol
  | [] => close :: rest
  | part :: parts => separator :: ([separator].intercalate (part :: parts) ++ close :: rest)

theorem intercalate_cons_append {separator close : Symbol} {rest : List Symbol}
    {part : List Symbol} {parts : List (List Symbol)} :
    [separator].intercalate (part :: parts) ++ close :: rest =
      part ++ afterFirst separator close rest parts := by
  cases parts with
  | nil => rw [List.intercalate_singleton, afterFirst]
  | cons next parts => simp [afterFirst, List.intercalate_cons_cons]

/-- Parts with a separator between them and a closing symbol after them.  The induction is on
the parts of the first text. -/
theorem intercalate_inj {ends : List Symbol → Prop} {separator close : Symbol}
    (differ : separator ≠ close) (endsSeparator : ∀ rest, ends (separator :: rest))
    (endsClose : ∀ rest, ends (close :: rest)) {parts others : List (List Symbol)}
    (begins : ∀ part ∈ parts, BeginsUnlike close part)
    (otherBegins : ∀ part ∈ others, BeginsUnlike close part)
    (together : ∀ part ∈ parts, ∀ other ∈ others, EndTogether ends part other)
    {rest other : List Symbol}
    (same : [separator].intercalate parts ++ close :: rest =
      [separator].intercalate others ++ close :: other) : parts = others ∧ rest = other := by
  have endsAfter (parts : List (List Symbol)) (rest : List Symbol) :
      ends (afterFirst separator close rest parts) := by
    cases parts with
    | nil => exact endsClose rest
    | cons part parts => exact endsSeparator _
  induction parts generalizing others with
  | nil =>
      cases others with
      | nil => exact ⟨rfl, (List.cons.inj same).2⟩
      | cons second others =>
          obtain ⟨symbol, tail, rfl, differs⟩ := otherBegins second List.mem_cons_self
          rw [intercalate_cons_append] at same
          exact absurd (List.cons.inj same).1.symm differs
  | cons first parts inductionHypothesis =>
      cases others with
      | nil =>
          obtain ⟨symbol, tail, rfl, differs⟩ := begins first List.mem_cons_self
          rw [intercalate_cons_append] at same
          exact absurd (List.cons.inj same).1 differs
      | cons second others =>
          rw [intercalate_cons_append, intercalate_cons_append] at same
          obtain ⟨rfl, later⟩ := together first List.mem_cons_self second List.mem_cons_self
            (endsAfter parts rest) (endsAfter others other) same
          cases parts with
          | nil =>
              cases others with
              | nil => exact ⟨rfl, (List.cons.inj later).2⟩
              | cons next others => exact absurd (List.cons.inj later).1.symm differ
          | cons part parts =>
              cases others with
              | nil => exact absurd (List.cons.inj later).1 differ
              | cons next others =>
                  obtain ⟨sameParts, sameRest⟩ := inductionHypothesis
                    (fun part member => begins part (List.mem_cons_of_mem _ member))
                    (fun part member => otherBegins part (List.mem_cons_of_mem _ member))
                    (fun part member other isOther => together part
                      (List.mem_cons_of_mem _ member) other (List.mem_cons_of_mem _ isOther))
                    (List.cons.inj later).2
                  exact ⟨congrArg _ sameParts, sameRest⟩

end ResearchPlatform.Foundation
