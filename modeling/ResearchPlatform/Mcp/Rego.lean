import Mathlib.Data.Finset.Option
import Mathlib.Data.Finset.Sort
import Mathlib.Data.String.Basic
import ResearchPlatform.Domain.Json

/-!
# Rego expressions

An expression is a JSON value or undefined.  A reference to what is not there is
undefined, a built-in function of an undefined argument is undefined, a statement
holds when its value is defined and not `false`, and `not` holds of a statement that
does not.
-/

namespace ResearchPlatform

namespace Rego

/-- The value of an expression; `none` is undefined.  Equal values are written alike:
members of an object in the order of their keys, whole numbers without a point. -/
abbrev Term : Type := Option Json

/-- A statement of a rule body holds. -/
def Holds : Term → Prop
  | some value => value ≠ .bool false
  | none => False

instance (term : Term) : Decidable (Holds term) :=
  match term with
  | some value => inferInstanceAs (Decidable (value ≠ .bool false))
  | none => isFalse id

/-- `term.name`. -/
def field (term : Term) (name : String) : Term :=
  match term with
  | some (.object members) => (members.find? (·.1 = name)).map Prod.snd
  | _ => none

/-- `left != right`. -/
def notEqual (left right : Term) : Term :=
  match left, right with
  | some left, some right => some (.bool (left ≠ right))
  | _, _ => none

/-- `item in collection`. -/
def isIn (item collection : Term) : Term :=
  match item, collection with
  | some item, some (.array items) => some (.bool (item ∈ items))
  | some item, some (.object members) => some (.bool (item ∈ members.map Prod.snd))
  | some _, some _ => some (.bool false)
  | _, _ => none

/-- The items that `some item in collection` ranges over. -/
def itemsOf : Term → List Json
  | some (.array items) => items
  | some (.object members) => members.map Prod.snd
  | _ => []

/-- What `%v` prints. -/
def display : Json → List Char
  | .text value => value.toList
  | value => value.dumps

/-- Each `%v` of a format is replaced by the next argument. -/
def fill : List Char → List Json → List Char
  | '%' :: 'v' :: rest, value :: values => display value ++ fill rest values
  | char :: rest, values => char :: fill rest values
  | [], _ => []

/-- `sprintf(format, arguments)`. -/
def sprintf (format : String) (arguments : List Term) : Option String :=
  (arguments.mapM id).map fun values => String.ofList (fill format.toList values)

/-- The messages that one `contains` rule adds: none where its body does not hold or
its message is undefined. -/
def contains (body : Prop) [Decidable body] (message : Option String) : Finset String :=
  if body then message.toFinset else ∅

variable {term left right : Term} {value : Json} {members : List (String × Json)}
  {items : List Json} {name : String}

@[simp]
theorem holds_bool {test : Bool} : Holds (some (.bool test)) ↔ test = true := by
  cases test <;> simp [Holds]

@[simp]
theorem not_holds_none : ¬ Holds none := id

@[simp]
theorem holds_object : Holds (some (.object members)) := by simp [Holds]

@[simp]
theorem field_object :
    field (some (.object members)) name = (members.find? (·.1 = name)).map Prod.snd := rfl

@[simp]
theorem notEqual_some {first second : Json} :
    notEqual (some first) (some second) = some (.bool (first ≠ second)) := rfl

@[simp]
theorem isIn_array : isIn (some value) (some (.array items)) = some (.bool (value ∈ items)) :=
  rfl

/-- A rule adds nothing exactly when its body does not hold or its message is
undefined. -/
theorem contains_eq_empty {body : Prop} [Decidable body] {message : Option String} :
    contains body message = ∅ ↔ (body → message = none) := by
  by_cases holds : body
  · cases message <;> simp [contains, holds]
  · simp [contains, holds]

/-- A rule whose message is defined adds nothing exactly when its body does not
hold. -/
theorem contains_eq_empty_iff {body : Prop} [Decidable body] {message : Option String}
    (defined : message.isSome = true) : contains body message = ∅ ↔ ¬ body := by
  obtain ⟨text, rfl⟩ := Option.isSome_iff_exists.mp defined
  simp [contains_eq_empty]

end Rego

end ResearchPlatform
