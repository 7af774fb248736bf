import ResearchPlatform.Domain.Identifiers

/-!
# JSON values and their canonical text

`Json.dumps` is `json.dumps` with sorted keys, the separators `,` and `:` and
ASCII output.
-/

namespace ResearchPlatform

open Foundation

/-- A JSON value.  A float is given by its shortest representation; the members
of an object stand in the order of the `dict`. -/
inductive Json where
  | null
  | bool (value : Bool)
  | int (value : Int)
  | float (shortest : String)
  | text (value : String)
  | array (items : List Json)
  | object (members : List (String × Json))

namespace Json

mutual

def decideEq : (left right : Json) → Decidable (left = right)
  | null, null => isTrue rfl
  | bool first, bool second =>
      decidable_of_iff (first = second) (by simp)
  | int first, int second =>
      decidable_of_iff (first = second) (by simp)
  | float first, float second =>
      decidable_of_iff (first = second) (by simp)
  | text first, text second =>
      decidable_of_iff (first = second) (by simp)
  | array first, array second =>
      match decideItemsEq first second with
      | isTrue same => isTrue (by rw [same])
      | isFalse different => isFalse (by simpa using different)
  | object first, object second =>
      match decideMembersEq first second with
      | isTrue same => isTrue (by rw [same])
      | isFalse different => isFalse (by simpa using different)
  | null, bool _ | null, int _ | null, float _ | null, text _ | null, array _
  | null, object _ | bool _, null | bool _, int _ | bool _, float _
  | bool _, text _ | bool _, array _ | bool _, object _ | int _, null
  | int _, bool _ | int _, float _ | int _, text _ | int _, array _
  | int _, object _ | float _, null | float _, bool _ | float _, int _
  | float _, text _ | float _, array _ | float _, object _ | text _, null
  | text _, bool _ | text _, int _ | text _, float _ | text _, array _
  | text _, object _ | array _, null | array _, bool _ | array _, int _
  | array _, float _ | array _, text _ | array _, object _ | object _, null
  | object _, bool _ | object _, int _ | object _, float _ | object _, text _
  | object _, array _ => isFalse nofun

def decideItemsEq : (left right : List Json) → Decidable (left = right)
  | [], [] => isTrue rfl
  | [], _ :: _ => isFalse nofun
  | _ :: _, [] => isFalse nofun
  | first :: left, second :: right =>
      match decideEq first second, decideItemsEq left right with
      | isTrue same, isTrue rest => isTrue (by rw [same, rest])
      | isFalse different, _ => isFalse fun equal => different (by simp_all)
      | _, isFalse different => isFalse fun equal => different (by simp_all)

def decideMembersEq :
    (left right : List (String × Json)) → Decidable (left = right)
  | [], [] => isTrue rfl
  | [], _ :: _ => isFalse nofun
  | _ :: _, [] => isFalse nofun
  | (firstKey, first) :: left, (secondKey, second) :: right =>
      match decEq firstKey secondKey, decideEq first second,
          decideMembersEq left right with
      | isTrue sameKey, isTrue same, isTrue rest =>
          isTrue (by rw [sameKey, same, rest])
      | isFalse different, _, _ => isFalse fun equal => different (by simp_all)
      | _, isFalse different, _ => isFalse fun equal => different (by simp_all)
      | _, _, isFalse different => isFalse fun equal => different (by simp_all)

end

instance : DecidableEq Json := decideEq

/-! ## Parts -/

/-- The items of an array, or the values of an object. -/
def parts : Json → List Json
  | array items => items
  | object members => members.map Prod.snd
  | _ => []

theorem mem_parts_of_member {members : List (String × Json)} {member : String × Json}
    (isMember : member ∈ members) : member.2 ∈ (object members).parts :=
  List.mem_map_of_mem isMember

/-- What holds of a value whenever it holds of its parts holds of every value. -/
theorem induction {motive : Json → Prop}
    (step : ∀ value, (∀ part ∈ value.parts, motive part) → motive value) (value : Json) :
    motive value := by
  have scalar {value : Json} (noParts : value.parts = []) : motive value := by
    apply step
    intro part member
    rw [noParts] at member
    cases member
  apply @Json.rec motive (fun items => ∀ item ∈ items, motive item)
    (fun members => ∀ member ∈ members, motive (Prod.snd member))
    (fun member => motive member.2)
  · exact scalar rfl
  · exact fun _ => scalar rfl
  · exact fun _ => scalar rfl
  · exact fun _ => scalar rfl
  · exact fun _ => scalar rfl
  · exact fun items each => step (array items) each
  · intro members each
    apply step
    intro part isPart
    obtain ⟨member, isMember, rfl⟩ := List.mem_map.mp isPart
    exact each member isMember
  · exact fun _ member => absurd member List.not_mem_nil
  · exact fun _ _ first rest => List.forall_mem_cons.mpr ⟨first, rest⟩
  · exact fun _ member => absurd member List.not_mem_nil
  · exact fun _ _ first rest => List.forall_mem_cons.mpr ⟨first, rest⟩
  · exact fun _ _ isValue => isValue

/-! ## Canonical text -/

/-- `\uXXXX` for one UTF-16 unit. -/
def escapeUnit (unit : Nat) : List Char :=
  '\\' :: 'u' :: hexDigits 4 unit

/-- One character inside a JSON string, as `ensure_ascii` writes it. -/
def escapeChar (char : Char) : List Char :=
  if char = '"' then ['\\', '"']
  else if char = '\\' then ['\\', '\\']
  else if char = '\n' then ['\\', 'n']
  else if char = '\r' then ['\\', 'r']
  else if char = '\t' then ['\\', 't']
  else if char = '\x0c' then ['\\', 'f']
  else if char = '\x08' then ['\\', 'b']
  else if 32 ≤ char.toNat ∧ char.toNat ≤ 126 then [char]
  else if char.toNat < 65536 then escapeUnit char.toNat
  else
    -- Beyond the basic plane a character is written as a surrogate pair.
    escapeUnit (55296 + (char.toNat - 65536) / 1024) ++
      escapeUnit (56320 + (char.toNat - 65536) % 1024)

def encodeString (text : String) : List Char :=
  '"' :: text.toList.flatMap escapeChar ++ ['"']

/-- Join the parts with commas between the given brackets. -/
def enclose (first last : Char) (parts : List (List Char)) : List Char :=
  first :: [','].intercalate parts ++ [last]

mutual

/-- `json.dumps(value, sort_keys=True, separators=(",", ":"))`. -/
def dumps : Json → List Char
  | null => "null".toList
  | bool value => if value then "true".toList else "false".toList
  | int value => (toString value).toList
  | float shortest => shortest.toList
  | text value => encodeString value
  | array items => enclose '[' ']' (dumpsItems items)
  | object members =>
      enclose '{' '}'
        (((dumpsMembers members).insertionSort (·.1 ≤ ·.1)).map Prod.snd)

def dumpsItems : List Json → List (List Char)
  | [] => []
  | item :: rest => dumps item :: dumpsItems rest

/-- Each member with its key, still in the order of the object. -/
def dumpsMembers : List (String × Json) → List (String × List Char)
  | [] => []
  | (key, value) :: rest =>
      (key, encodeString key ++ ':' :: dumps value) :: dumpsMembers rest

end

example :
    String.ofList
        (object [("b", array [int 1, null]), ("a", text "x\ny")]).dumps =
      "\x7b\"a\":\"x\\ny\",\"b\":[1,null]\x7d" := by
  decide

end Json

end ResearchPlatform
