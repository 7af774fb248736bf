import Mathlib.Data.Bool.AllAny
import ResearchPlatform.Domain.Approvals
import ResearchPlatform.Foundation.Ordering
import ResearchPlatform.Foundation.PrefixCodes

/-!
# What a digest binds

The canonical texts of two JSON values are the same exactly where the values are, up to the
order of the members of each object.  So an approval, whose digest is that of a canonical text,
is for the arguments that were approved and no others, as long as SHA-256 tells the texts apart.
-/

namespace ResearchPlatform

open Foundation

namespace Json

/-! ## The specification -/

/-- A character of the text of a number. -/
def isNumberChar (char : Char) : Bool :=
  char.isDigit || char == '-' || char == '+' || char == '.' || char == 'e'

/-- What the shortest representation of a finite float looks like. -/
structure IsFloatText (shortest : String) : Prop where
  chars : ∀ char ∈ shortest.toList, isNumberChar char = true
  notWhole : '.' ∈ shortest.toList ∨ 'e' ∈ shortest.toList

mutual

/-- The keys of each object are distinct, and floats are texts of floats. -/
def WellFormed : Json → Prop
  | null | bool _ | int _ | text _ => True
  | float shortest => IsFloatText shortest
  | array items => ItemsWellFormed items
  | object members => (members.map Prod.fst).Nodup ∧ MembersWellFormed members

def ItemsWellFormed : List Json → Prop
  | [] => True
  | item :: rest => WellFormed item ∧ ItemsWellFormed rest

def MembersWellFormed : List (String × Json) → Prop
  | [] => True
  | (_, value) :: rest => WellFormed value ∧ MembersWellFormed rest

end

mutual

/-- The values are the same up to the order of the members of each object. -/
def Same : Json → Json → Prop
  | array items, array others => SameItems items others
  | object members, object others =>
      members.length = others.length ∧ SameMembers members others
  | value, other => value = other

def SameItems : List Json → List Json → Prop
  | [], [] => True
  | item :: items, other :: others => Same item other ∧ SameItems items others
  | _, _ => False

/-- Each member has the same value among the others, under the same key. -/
def SameMembers : List (String × Json) → List (String × Json) → Prop
  | [], _ => True
  | (key, value) :: rest, others =>
      (∃ other, (key, other) ∈ others ∧ Same value other) ∧ SameMembers rest others

end

theorem itemsWellFormed_iff {items : List Json} :
    ItemsWellFormed items ↔ ∀ item ∈ items, item.WellFormed := by
  induction items with
  | nil => simp [ItemsWellFormed]
  | cons item rest inductionHypothesis => simp [ItemsWellFormed, inductionHypothesis]

theorem membersWellFormed_iff {members : List (String × Json)} :
    MembersWellFormed members ↔ ∀ member ∈ members, member.2.WellFormed := by
  induction members with
  | nil => simp [MembersWellFormed]
  | cons member rest inductionHypothesis =>
      rw [MembersWellFormed, inductionHypothesis, List.forall_mem_cons]

theorem sameItems_iff {items others : List Json} :
    SameItems items others ↔ List.Forall₂ Same items others := by
  induction items generalizing others with
  | nil => cases others <;> simp [SameItems]
  | cons item items inductionHypothesis =>
      cases others <;> simp [SameItems, inductionHypothesis]

theorem sameMembers_iff {members others : List (String × Json)} :
    SameMembers members others ↔
      ∀ member ∈ members, ∃ other, (member.1, other) ∈ others ∧ Same member.2 other := by
  induction members with
  | nil => simp [SameMembers]
  | cons member rest inductionHypothesis =>
      rw [SameMembers, inductionHypothesis, List.forall_mem_cons]

theorem dumpsItems_eq (items : List Json) : dumpsItems items = items.map dumps := by
  induction items with
  | nil => rfl
  | cons item rest inductionHypothesis => rw [dumpsItems, inductionHypothesis, List.map_cons]

/-- One member as it is written, behind its key. -/
def memberText (member : String × Json) : List Char :=
  encodeString member.1 ++ ':' :: member.2.dumps

theorem dumpsMembers_eq (members : List (String × Json)) :
    dumpsMembers members = members.map fun member => (member.1, memberText member) := by
  induction members with
  | nil => rfl
  | cons member rest inductionHypothesis =>
      rw [dumpsMembers, inductionHypothesis, List.map_cons]
      rfl

/-- The texts of the members in the order of their keys. -/
def memberTexts (members : List (String × Json)) : List (List Char) :=
  ((dumpsMembers members).insertionSort (·.1 ≤ ·.1)).map Prod.snd

theorem mem_memberTexts {members : List (String × Json)} {part : List Char} :
    part ∈ memberTexts members ↔ ∃ member ∈ members, memberText member = part := by
  simp only [memberTexts, dumpsMembers_eq, List.mem_map, List.mem_insertionSort]
  constructor
  · intro found
    obtain ⟨entry, ⟨member, isMember, rfl⟩, rfl⟩ := found
    exact ⟨member, isMember, rfl⟩
  · intro found
    obtain ⟨member, isMember, rfl⟩ := found
    exact ⟨_, ⟨member, isMember, rfl⟩, rfl⟩

/-! ## Strings can be read back -/

/-- Read `\uXXXX`. -/
def readUnit : List Char → Option (Nat × List Char)
  | '\\' :: 'u' :: rest => (readHex (rest.take 4)).map (·, rest.drop 4)
  | _ => none

/-- The character that a backslash and a letter stand for. -/
def shortEscape (letter : Char) : Char :=
  if letter = 'n' then '\n'
  else if letter = 'r' then '\r'
  else if letter = 't' then '\t'
  else if letter = 'f' then '\x0c'
  else if letter = 'b' then '\x08'
  else letter

/-- Read one character back. -/
def readEscaped (text : List Char) : Option (Char × List Char) :=
  match readUnit text with
  | some (unit, rest) =>
      if 55296 ≤ unit ∧ unit < 56320 then
        (readUnit rest).map fun (low, rest) =>
          (Char.ofNat (65536 + (unit - 55296) * 1024 + (low - 56320)), rest)
      else some (Char.ofNat unit, rest)
  | none =>
      match text with
      | [] => none
      | char :: rest =>
          if char = '\\' then rest.head?.map fun letter => (shortEscape letter, rest.tail)
          else some (char, rest)

theorem readUnit_escapeUnit {unit : Nat} (small : unit < 65536) (rest : List Char) :
    readUnit (escapeUnit unit ++ rest) = some (unit, rest) := by
  have size : (hexDigits 4 unit).length = 4 := length_hexDigits 4 unit
  change (readHex ((hexDigits 4 unit ++ rest).take 4)).map
    (·, (hexDigits 4 unit ++ rest).drop 4) = _
  rw [List.take_left' size, List.drop_left' size, readHex_hexDigits, Option.map_some,
    Nat.mod_eq_of_lt (by exact small)]

theorem readUnit_of_ne {char : Char} (different : char ≠ '\\') (rest : List Char) :
    readUnit (char :: rest) = none := by
  unfold readUnit
  split
  · rename_i isEscape
    exact absurd (List.cons.inj isEscape).1 different
  · rfl

theorem readEscaped_of_ne {char : Char} (different : char ≠ '\\') (rest : List Char) :
    readEscaped (char :: rest) = some (char, rest) := by
  rw [readEscaped, readUnit_of_ne different]
  exact if_neg different

theorem readEscaped_short {letter : Char} (different : letter ≠ 'u') (rest : List Char) :
    readEscaped ('\\' :: letter :: rest) = some (shortEscape letter, rest) := by
  have none : readUnit ('\\' :: letter :: rest) = none := by
    unfold readUnit
    split
    · rename_i isEscape
      exact absurd (List.cons.inj (List.cons.inj isEscape).2).1 different
    · rfl
  unfold readEscaped
  simp only [none, if_true, List.head?_cons, Option.map_some, List.tail_cons]

theorem readEscaped_pair {high low : Nat} (isHigh : 55296 ≤ high ∧ high < 56320)
    (small : low < 65536) (rest : List Char) :
    readEscaped (escapeUnit high ++ (escapeUnit low ++ rest)) =
      some (Char.ofNat (65536 + (high - 55296) * 1024 + (low - 56320)), rest) := by
  have fits : high < 65536 := by omega
  unfold readEscaped
  simp only [readUnit_escapeUnit fits, readUnit_escapeUnit small, isHigh, and_self, if_true,
    Option.map_some]

/-- A character is no surrogate. -/
theorem toNat_char_or (char : Char) : char.toNat < 55296 ∨ 57343 < char.toNat := by
  rcases char.valid with low | high
  · exact Or.inl low
  · exact Or.inr high.1

theorem toNat_char_lt (char : Char) : char.toNat < 1114112 := by
  rcases char.valid with low | high
  · exact Nat.lt_trans low (by omega)
  · exact high.2

theorem readEscaped_escapeChar (char : Char) (rest : List Char) :
    readEscaped (escapeChar char ++ rest) = some (char, rest) := by
  unfold escapeChar
  split_ifs with quote backslash newline carriage tab formFeed backspace printable basic
  · rw [quote]
    exact readEscaped_short (by decide) rest
  · rw [backslash]
    exact readEscaped_short (by decide) rest
  · rw [newline]
    exact readEscaped_short (by decide) rest
  · rw [carriage]
    exact readEscaped_short (by decide) rest
  · rw [tab]
    exact readEscaped_short (by decide) rest
  · rw [formFeed]
    exact readEscaped_short (by decide) rest
  · rw [backspace]
    exact readEscaped_short (by decide) rest
  · exact readEscaped_of_ne backslash rest
  · have scalar : char.toNat < 55296 ∨ 57343 < char.toNat := toNat_char_or char
    have notPair : ¬ (55296 ≤ char.toNat ∧ char.toNat < 56320) := by omega
    unfold readEscaped
    simp only [readUnit_escapeUnit basic, notPair, if_false, Char.ofNat_toNat]
  · have bound := toNat_char_lt char
    have whole : 65536 + (55296 + (char.toNat - 65536) / 1024 - 55296) * 1024 +
        (56320 + (char.toNat - 65536) % 1024 - 56320) = char.toNat := by omega
    rw [List.append_assoc, readEscaped_pair (by omega) (by omega), whole, Char.ofNat_toNat]

theorem escapeChar_begins (char : Char) : BeginsUnlike '"' (escapeChar char) := by
  unfold escapeChar
  split_ifs with quote
  all_goals first
    | exact ⟨_, _, rfl, by decide⟩
    | exact ⟨_, _, rfl, quote⟩

/-- A string in quotes, and what follows it, can be told from the text. -/
theorem isPrefixCode_encodeString : IsPrefixCode encodeString := by
  have code : IsPrefixCode escapeChar := isPrefixCode_of_read readEscaped_escapeChar
  intro first second rest other same
  have inner : first.toList.flatMap escapeChar ++ '"' :: rest =
      second.toList.flatMap escapeChar ++ '"' :: other := by
    simpa [encodeString] using same
  obtain ⟨sameText, sameRest⟩ := code.flatMap_inj escapeChar_begins inner
  exact ⟨String.toList_inj.mp sameText, sameRest⟩

/-! ## Numbers -/

theorem toList_toString_int (value : Int) :
    (toString value).toList = Nat.toDigits 10 value.toNat ∧ 0 ≤ value ∨
      (toString value).toList = '-' :: Nat.toDigits 10 value.natAbs ∧ value < 0 := by
  cases value with
  | ofNat value => exact Or.inl ⟨Nat.toList_repr, Int.natCast_nonneg value⟩
  | negSucc value =>
      right
      refine ⟨?_, Int.negSucc_lt_zero value⟩
      change ("-" ++ (value + 1).repr).toList = _
      rw [String.toList_append, Nat.toList_repr]
      rfl

theorem isDigit_of_mem_toDigits {value : Nat} {char : Char}
    (member : char ∈ Nat.toDigits 10 value) : char.isDigit = true :=
  Nat.isDigit_of_mem_toDigits (by decide) (by decide) member

theorem isNumberChar_toString {value : Int} {char : Char}
    (member : char ∈ (toString value).toList) :
    isNumberChar char = true ∧ char ≠ '.' ∧ char ≠ 'e' := by
  have digit (isDigit : char.isDigit = true) :
      isNumberChar char = true ∧ char ≠ '.' ∧ char ≠ 'e' := by
    refine ⟨by simp [isNumberChar, isDigit], ?_, ?_⟩
    · rintro rfl
      cases isDigit
    · rintro rfl
      cases isDigit
  rcases toList_toString_int value with natural | negative
  · rw [natural.1] at member
    exact digit (isDigit_of_mem_toDigits member)
  · rw [negative.1] at member
    rcases List.mem_cons.mp member with rfl | isDigit
    · decide
    · exact digit (isDigit_of_mem_toDigits isDigit)

theorem toDigits_inj {first second : Nat} (same : Nat.toDigits 10 first = Nat.toDigits 10 second) :
    first = second := by
  have both := congrArg (Nat.ofDigitChars 10 · 0) same
  simpa [Nat.ofDigitChars_toDigits] using both

theorem toString_int_inj {first second : Int}
    (same : (toString first).toList = (toString second).toList) : first = second := by
  have noSign {value : Nat} {tail : List Char}
      (digits : Nat.toDigits 10 value = '-' :: tail) : False := by
    have member : '-' ∈ Nat.toDigits 10 value := digits ▸ List.mem_cons_self
    cases isDigit_of_mem_toDigits member
  rcases toList_toString_int first with natural | negative
  · rcases toList_toString_int second with other | other
    · rw [natural.1, other.1] at same
      have equal := toDigits_inj same
      omega
    · rw [natural.1, other.1] at same
      exact (noSign same).elim
  · rcases toList_toString_int second with other | other
    · rw [negative.1, other.1] at same
      exact (noSign same.symm).elim
    · rw [negative.1, other.1] at same
      have equal := toDigits_inj (List.cons.inj same).2
      omega

/-! ## Values can be told apart -/

/-- What may follow a value. -/
def Ends (text : List Char) : Prop :=
  ∀ char ∈ text.head?, char ∈ [',', ']', '}']

/-- The kind of value that begins with the character. -/
def openingOf (char : Char) : Char :=
  if isNumberChar char then '0' else char

/-- How the text of a value begins. -/
def opening : Json → Char
  | null => 'n'
  | bool true => 't'
  | bool false => 'f'
  | int _ => '0'
  | float _ => '0'
  | text _ => '"'
  | array _ => '['
  | object _ => '{'

theorem ends_of_mem {char : Char} (closes : char ∈ [',', ']', '}']) (rest : List Char) :
    Ends (char :: rest) := by
  intro first isFirst
  rw [← Option.some.inj isFirst]
  exact closes

theorem Ends.not_number {text : List Char} (ends : Ends text) :
    ∀ char ∈ text.head?, isNumberChar char = false := by
  have noNumber : ∀ char ∈ [',', ']', '}'], isNumberChar char = false :=
    List.all_iff_forall_prop.mp (by decide)
  exact fun char member => noNumber char (ends char member)

theorem exists_dumps {value : Json} (wellFormed : value.WellFormed) :
    ∃ first tail, value.dumps = first :: tail ∧ openingOf first = value.opening := by
  have number {text : List Char} (some : text ≠ [])
      (chars : ∀ char ∈ text, isNumberChar char = true) :
      ∃ first tail, text = first :: tail ∧ openingOf first = '0' := by
    obtain ⟨first, tail, rfl⟩ := List.exists_cons_of_ne_nil some
    exact ⟨first, tail, rfl, if_pos (chars first List.mem_cons_self)⟩
  cases value with
  | null => exact ⟨'n', ['u', 'l', 'l'], by decide, by decide⟩
  | bool value =>
      cases value with
      | true => exact ⟨'t', ['r', 'u', 'e'], by decide, by decide⟩
      | false => exact ⟨'f', ['a', 'l', 's', 'e'], by decide, by decide⟩
  | int value =>
      apply number
      · rcases toList_toString_int value with natural | negative
        · rw [dumps, natural.1]
          exact Nat.toDigits_ne_nil
        · rw [dumps, negative.1]
          exact List.cons_ne_nil _ _
      · exact fun char member => (isNumberChar_toString member).1
  | float shortest =>
      have isFloat : IsFloatText shortest := wellFormed
      apply number
      · rcases isFloat.notWhole with point | exponent
        · exact List.ne_nil_of_mem point
        · exact List.ne_nil_of_mem exponent
      · exact isFloat.chars
  | text value => exact ⟨'"', _, rfl, if_neg (by decide)⟩
  | array items => exact ⟨'[', _, rfl, if_neg (by decide)⟩
  | object members => exact ⟨'{', _, rfl, if_neg (by decide)⟩

theorem begins_unlike_bracket {value : Json} (wellFormed : value.WellFormed) :
    BeginsUnlike ']' value.dumps := by
  obtain ⟨first, tail, isText, isOpening⟩ := exists_dumps wellFormed
  refine ⟨first, tail, isText, ?_⟩
  rintro rfl
  have bracket : openingOf ']' = ']' := by decide
  rw [bracket] at isOpening
  cases value with
  | bool value => cases value <;> exact absurd isOpening (by decide)
  | _ => exact absurd isOpening (by simp [opening])

/-- Values that begin alike are of one kind. -/
inductive SameKind : Json → Json → Prop
  | equal (value : Json) : SameKind value value
  | number {value other : Json} (isNumber : value.opening = '0')
      (isOther : other.opening = '0') : SameKind value other
  | text (value other : String) : SameKind (text value) (text other)
  | array (items others : List Json) : SameKind (array items) (array others)
  | object (members others : List (String × Json)) : SameKind (object members) (object others)

theorem sameKind_of_opening {value other : Json} (same : value.opening = other.opening) :
    SameKind value other := by
  cases value with
  | bool value =>
      cases value <;> cases other with
      | bool other => cases other <;> first | exact .equal _ | exact absurd same (by decide)
      | _ => exact absurd same (by simp [opening])
  | _ =>
      cases other with
      | bool other => cases other <;> exact absurd same (by simp [opening])
      | _ =>
          first
            | exact .equal _
            | exact .text _ _
            | exact .array _ _
            | exact .object _ _
            | exact .number rfl rfl
            | exact absurd same (by simp [opening])

theorem same_opening {first second : Json} (isFirst : first.WellFormed)
    (isSecond : second.WellFormed) {rest other : List Char}
    (same : first.dumps ++ rest = second.dumps ++ other) : first.opening = second.opening := by
  obtain ⟨firstChar, firstTail, firstText, firstOpens⟩ := exists_dumps isFirst
  obtain ⟨secondChar, secondTail, secondText, secondOpens⟩ := exists_dumps isSecond
  rw [firstText, secondText] at same
  rw [← firstOpens, ← secondOpens, (List.cons.inj same).1]

theorem memberText_endTogether {member other : String × Json}
    (values : EndTogether Ends member.2.dumps other.2.dumps) :
    EndTogether Ends (memberText member) (memberText other) := by
  intro rest after ends afterEnds same
  have both : encodeString member.1 ++ (':' :: (member.2.dumps ++ rest)) =
      encodeString other.1 ++ (':' :: (other.2.dumps ++ after)) := by
    simpa [memberText] using same
  obtain ⟨sameKey, later⟩ := isPrefixCode_encodeString both
  obtain ⟨sameValue, sameRest⟩ := values ends afterEnds (List.cons.inj later).2
  exact ⟨by rw [memberText, memberText, sameKey, sameValue], sameRest⟩

theorem dumps_array_eq {items others : List Json} (same : items.map dumps = others.map dumps) :
    (array items).dumps = (array others).dumps := by
  rw [dumps, dumps, dumpsItems_eq, dumpsItems_eq, same]

/-- The items of arrays, told apart by the commas between them. -/
theorem dumpsItems_inj {items others : List Json}
    (together : ∀ item ∈ items, ∀ other ∈ others, EndTogether Ends item.dumps other.dumps)
    (wellFormed : ∀ item ∈ items, item.WellFormed)
    (otherWellFormed : ∀ item ∈ others, item.WellFormed) {rest after : List Char}
    (same : (array items).dumps ++ rest = (array others).dumps ++ after) :
    items.map dumps = others.map dumps ∧ rest = after := by
  have inner : [','].intercalate (items.map dumps) ++ ']' :: rest =
      [','].intercalate (others.map dumps) ++ ']' :: after := by
    simpa [dumps, enclose, dumpsItems_eq] using same
  have begins {values : List Json} (each : ∀ item ∈ values, item.WellFormed) :
      ∀ part ∈ values.map dumps, BeginsUnlike ']' part := by
    intro part member
    obtain ⟨item, isItem, rfl⟩ := List.mem_map.mp member
    exact begins_unlike_bracket (each item isItem)
  refine intercalate_inj (by decide) (ends_of_mem (by decide)) (ends_of_mem (by decide))
    (begins wellFormed) (begins otherWellFormed) ?_ inner
  intro part member other otherMember
  obtain ⟨item, isItem, rfl⟩ := List.mem_map.mp member
  obtain ⟨otherItem, isOther, rfl⟩ := List.mem_map.mp otherMember
  exact together item isItem otherItem isOther

/-- The members of objects. -/
theorem memberTexts_inj {members others : List (String × Json)}
    (together : ∀ member ∈ members, ∀ other ∈ others,
      EndTogether Ends member.2.dumps other.2.dumps) {rest after : List Char}
    (same : (object members).dumps ++ rest = (object others).dumps ++ after) :
    memberTexts members = memberTexts others ∧ rest = after := by
  have inner : [','].intercalate (memberTexts members) ++ '}' :: rest =
      [','].intercalate (memberTexts others) ++ '}' :: after := by
    simpa [dumps, enclose, memberTexts] using same
  have begins {members : List (String × Json)} :
      ∀ part ∈ memberTexts members, BeginsUnlike '}' part := by
    intro part member
    obtain ⟨entry, isEntry, rfl⟩ := mem_memberTexts.mp member
    exact ⟨'"', _, rfl, by decide⟩
  refine intercalate_inj (by decide) (ends_of_mem (by decide)) (ends_of_mem (by decide))
    begins begins ?_ inner
  intro part member other otherMember
  obtain ⟨entry, isEntry, rfl⟩ := mem_memberTexts.mp member
  obtain ⟨otherEntry, isOther, rfl⟩ := mem_memberTexts.mp otherMember
  exact memberText_endTogether (together entry isEntry otherEntry isOther)

theorem isNumberChar_of_mem_dumps {value : Json} (wellFormed : value.WellFormed)
    (number : value.opening = '0') : ∀ char ∈ value.dumps, isNumberChar char = true := by
  cases value with
  | int value => exact fun char member => (isNumberChar_toString member).1
  | float shortest =>
      have isFloat : IsFloatText shortest := wellFormed
      exact isFloat.chars
  | bool value => cases value <;> exact absurd number (by decide)
  | _ => exact absurd number (by simp [opening])

/-- The texts of two values end together.  The induction is on the first value. -/
theorem dumps_endTogether {value other : Json} (wellFormed : value.WellFormed)
    (otherWellFormed : other.WellFormed) : EndTogether Ends value.dumps other.dumps := by
  induction value using Json.induction generalizing other with
  | step value inductionHypothesis =>
      intro rest after ends afterEnds same
      cases sameKind_of_opening (same_opening wellFormed otherWellFormed same) with
      | equal => exact ⟨rfl, List.append_cancel_left same⟩
      | number isNumber isOther =>
          exact append_inj_of_outside (isNumberChar_of_mem_dumps wellFormed isNumber)
            (isNumberChar_of_mem_dumps otherWellFormed isOther) ends.not_number
            afterEnds.not_number same
      | text first second =>
          obtain ⟨rfl, sameRest⟩ := isPrefixCode_encodeString same
          exact ⟨rfl, sameRest⟩
      | array items others =>
          have each := itemsWellFormed_iff.mp wellFormed
          have otherEach := itemsWellFormed_iff.mp otherWellFormed
          obtain ⟨sameItems, sameRest⟩ := dumpsItems_inj
            (fun item member other isOther =>
              inductionHypothesis item member (each item member) (otherEach other isOther))
            each otherEach same
          exact ⟨dumps_array_eq sameItems, sameRest⟩
      | object members others =>
          have each := membersWellFormed_iff.mp wellFormed.2
          have otherEach := membersWellFormed_iff.mp otherWellFormed.2
          obtain ⟨sameMembers, sameRest⟩ := memberTexts_inj
            (fun member isMember other isOther => inductionHypothesis member.2
              (mem_parts_of_member isMember) (each member isMember) (otherEach other isOther))
            same
          exact ⟨congrArg (enclose '{' '}') sameMembers, sameRest⟩

/-! ## Equal texts -/

theorem memberText_inj {member other : String × Json}
    (same : memberText member = memberText other) :
    member.1 = other.1 ∧ member.2.dumps = other.2.dumps := by
  obtain ⟨sameKey, later⟩ := isPrefixCode_encodeString same
  exact ⟨sameKey, (List.cons.inj later).2⟩

theorem length_memberTexts (members : List (String × Json)) :
    (memberTexts members).length = members.length := by
  rw [memberTexts, List.length_map, List.length_insertionSort, dumpsMembers_eq,
    List.length_map]

theorem Same.refl (value : Json) : Same value value := by
  induction value using Json.induction with
  | step value inductionHypothesis =>
      cases value with
      | array items => exact sameItems_iff.mpr (List.forall₂_same.mpr inductionHypothesis)
      | object members =>
          refine ⟨rfl, sameMembers_iff.mpr fun member isMember => ?_⟩
          exact ⟨member.2, isMember, inductionHypothesis _ (mem_parts_of_member isMember)⟩
      | _ => rfl

/-- Numbers with one text are the same number. -/
theorem eq_of_number {value other : Json} (wellFormed : value.WellFormed)
    (otherWellFormed : other.WellFormed) (isNumber : value.opening = '0')
    (isOther : other.opening = '0') (equal : value.dumps = other.dumps) : value = other := by
  have apart {whole : Int} {shortest : String} (isFloat : IsFloatText shortest)
      (same : (toString whole).toList = shortest.toList) : False := by
    rcases isFloat.notWhole with point | exponent
    · exact (isNumberChar_toString (same ▸ point)).2.1 rfl
    · exact (isNumberChar_toString (same ▸ exponent)).2.2 rfl
  cases value with
  | int value =>
      cases other with
      | int other => exact congrArg int (toString_int_inj equal)
      | float other => exact (apart otherWellFormed equal).elim
      | bool other => cases other <;> exact absurd isOther (by decide)
      | _ => exact absurd isOther (by simp [opening])
  | float value =>
      cases other with
      | int other => exact (apart wellFormed equal.symm).elim
      | float other => exact congrArg float (String.toList_inj.mp equal)
      | bool other => cases other <;> exact absurd isOther (by decide)
      | _ => exact absurd isOther (by simp [opening])
  | bool value => cases value <;> exact absurd isNumber (by decide)
  | _ => exact absurd isNumber (by simp [opening])

/-- Values with one text are the same.  The induction is on the first of them. -/
theorem same_of_dumps_eq {value other : Json} (wellFormed : value.WellFormed)
    (otherWellFormed : other.WellFormed) (equal : value.dumps = other.dumps) :
    Same value other := by
  induction value using Json.induction generalizing other with
  | step value inductionHypothesis =>
      have same : value.dumps ++ [] = other.dumps ++ [] := by rw [equal]
      cases sameKind_of_opening (same_opening wellFormed otherWellFormed same) with
      | equal => exact Same.refl value
      | number isNumber isOther =>
          obtain rfl := eq_of_number wellFormed otherWellFormed isNumber isOther equal
          exact Same.refl value
      | text first second =>
          obtain ⟨rfl, -⟩ := isPrefixCode_encodeString same
          exact Same.refl _
      | array items others =>
          have each := itemsWellFormed_iff.mp wellFormed
          have otherEach := itemsWellFormed_iff.mp otherWellFormed
          obtain ⟨sameItems, -⟩ := dumpsItems_inj
            (fun item member other isOther =>
              dumps_endTogether (each item member) (otherEach other isOther))
            each otherEach same
          have pairs : List.Forall₂ (fun item other => dumps item = dumps other) items others :=
            List.forall₂_map_right_iff.mp
              (List.forall₂_map_left_iff.mp (sameItems ▸ List.forall₂_refl _))
          apply sameItems_iff.mpr
          apply List.forall₂_iff_get.mpr
          refine ⟨pairs.length_eq, fun index inside within => ?_⟩
          exact inductionHypothesis _ (List.get_mem items _) (each _ (List.get_mem items _))
            (otherEach _ (List.get_mem others _)) (pairs.get inside within)
      | object members others =>
          have each := membersWellFormed_iff.mp wellFormed.2
          have otherEach := membersWellFormed_iff.mp otherWellFormed.2
          obtain ⟨sameTexts, -⟩ := memberTexts_inj
            (fun member isMember other isOther =>
              dumps_endTogether (each member isMember) (otherEach other isOther)) same
          refine ⟨?_, sameMembers_iff.mpr fun member isMember => ?_⟩
          · rw [← length_memberTexts members, sameTexts, length_memberTexts]
          · have listed : memberText member ∈ memberTexts others := by
              rw [← sameTexts]
              exact mem_memberTexts.mpr ⟨member, isMember, rfl⟩
            obtain ⟨other, isOther, sameText⟩ := mem_memberTexts.mp listed
            obtain ⟨sameKey, sameDumps⟩ := memberText_inj sameText.symm
            refine ⟨other.2, sameKey ▸ isOther, ?_⟩
            exact inductionHypothesis _ (mem_parts_of_member isMember) (each member isMember)
              (otherEach other isOther) sameDumps

theorem same_cases {value other : Json} (same : Same value other) :
    value = other ∨
      (∃ items others, value = array items ∧ other = array others ∧ SameItems items others) ∨
      ∃ members others, value = object members ∧ other = object others ∧
        members.length = others.length ∧ SameMembers members others := by
  cases value with
  | array items =>
      cases other with
      | array others => exact Or.inr (Or.inl ⟨items, others, rfl, rfl, same⟩)
      | _ => exact Or.inl same
  | object members =>
      cases other with
      | object others => exact Or.inr (Or.inr ⟨members, others, rfl, rfl, same⟩)
      | _ => exact Or.inl same
  | _ => exact Or.inl same

/-- Sorting by key erases the order of members. -/
theorem memberTexts_eq {members others : List (String × Json)}
    (distinct : (members.map Prod.fst).Nodup) (sameLength : members.length = others.length)
    (found : ∀ member ∈ members, ∃ other ∈ others, member.1 = other.1 ∧
      memberText member = memberText other) :
    memberTexts members = memberTexts others := by
  have keys : (dumpsMembers members).map Prod.fst = members.map Prod.fst := by
    rw [dumpsMembers_eq, List.map_map]
    rfl
  have distinctKeys : ((dumpsMembers members).map Prod.fst).Nodup := by
    rw [keys]
    exact distinct
  have subset : dumpsMembers members ⊆ dumpsMembers others := by
    intro entry isEntry
    rw [dumpsMembers_eq] at isEntry ⊢
    obtain ⟨member, isMember, rfl⟩ := List.mem_map.mp isEntry
    obtain ⟨other, isOther, sameKey, sameText⟩ := found member isMember
    rw [sameKey, sameText]
    exact List.mem_map_of_mem isOther
  have perm : (dumpsMembers members).Perm (dumpsMembers others) := by
    apply (List.subperm_of_subset (List.Nodup.of_map _ distinctKeys) subset).perm_of_length_le
    rw [dumpsMembers_eq, dumpsMembers_eq, List.length_map, List.length_map, sameLength]
  rw [memberTexts, memberTexts]
  congr 1
  apply insertionSort_eq_of_perm
  · exact fun left right => String.le_total left.1 right.1
  · exact fun left middle right => String.le_trans
  · intro left leftMember right rightMember leftFirst rightFirst
    exact List.inj_on_of_nodup_map distinctKeys leftMember rightMember
      (String.le_antisymm leftFirst rightFirst)
  · exact perm

/-- Values that are the same have one text.  The induction is on the first of them. -/
theorem dumps_eq_of_same {value other : Json} (wellFormed : value.WellFormed)
    (same : Same value other) : value.dumps = other.dumps := by
  induction value using Json.induction generalizing other with
  | step value inductionHypothesis =>
      rcases same_cases same with rfl | ⟨items, others, rfl, rfl, sameItems⟩ |
        ⟨members, others, rfl, rfl, sameLength, sameMembers⟩
      · rfl
      · have each := itemsWellFormed_iff.mp wellFormed
        have pairs := sameItems_iff.mp sameItems
        apply dumps_array_eq
        apply List.ext_getElem (by rw [List.length_map, List.length_map, pairs.length_eq])
        intro index inside within
        rw [List.length_map] at inside within
        rw [List.getElem_map, List.getElem_map]
        exact inductionHypothesis _ (List.getElem_mem inside)
          (each _ (List.getElem_mem inside)) (pairs.get inside within)
      · have each := membersWellFormed_iff.mp wellFormed.2
        apply congrArg (enclose '{' '}')
        apply memberTexts_eq wellFormed.1 sameLength
        intro member isMember
        obtain ⟨other, isOther, sameValue⟩ := sameMembers_iff.mp sameMembers member isMember
        have sameDumps := inductionHypothesis _ (mem_parts_of_member isMember)
          (each member isMember) sameValue
        exact ⟨(member.1, other), isOther, rfl, by rw [memberText, memberText, sameDumps]⟩

end Json

/-! ## The digest -/

/-- The text of which `argument_digest` takes the digest. -/
def canonicalText (arguments : Arguments) : String :=
  String.ofList (Json.object arguments.entries).dumps

/-- The arguments are JSON values at every depth. -/
def IsJson (arguments : Arguments) : Prop := (Json.object arguments.entries).WellFormed

/-- The arguments are the same, up to the order of keys at every level. -/
def SameArguments (first second : Arguments) : Prop :=
  Json.Same (.object first.entries) (.object second.entries)

theorem argumentDigest_eq (arguments : Arguments) :
    argumentDigest arguments = sha256Text (canonicalText arguments) := rfl

theorem canonicalText_eq_iff {first second : Arguments} (isFirst : IsJson first)
    (isSecond : IsJson second) :
    canonicalText first = canonicalText second ↔ SameArguments first second := by
  rw [canonicalText, canonicalText, String.ofList_inj]
  constructor
  · exact Json.same_of_dumps_eq isFirst isSecond
  · exact Json.dumps_eq_of_same isFirst

/-- The canonical texts are the same exactly where the arguments are.  So an approval is valid
for the arguments that were approved and no others, where SHA-256 tells the texts apart. -/
theorem argumentDigest_binds :
    (∀ first second : Arguments, IsJson first → IsJson second →
      (canonicalText first = canonicalText second ↔ SameArguments first second)) ∧
    ∀ (approval : ApprovalRequest) (approved arguments : Arguments), IsJson approved →
      IsJson arguments → approval.argumentDigest = argumentDigest approved →
      (sha256Text (canonicalText approved) = sha256Text (canonicalText arguments) →
        canonicalText approved = canonicalText arguments) →
      (approval.argumentDigest = argumentDigest arguments ↔
        SameArguments approved arguments) ∧
      ∀ mcpServer capability resourceId moment,
        approval.isValidFor mcpServer capability resourceId arguments moment = .ok true ↔
          approval.isValidFor mcpServer capability resourceId approved moment = .ok true ∧
            SameArguments approved arguments := by
  refine ⟨fun first second => canonicalText_eq_iff, ?_⟩
  intro approval approved arguments isApproved isArguments forApproved noCollision
  have digests : argumentDigest approved = argumentDigest arguments ↔
      SameArguments approved arguments := by
    rw [← canonicalText_eq_iff isApproved isArguments, argumentDigest_eq, argumentDigest_eq]
    exact ⟨noCollision, congrArg sha256Text⟩
  refine ⟨by rw [forApproved, digests], ?_⟩
  intro mcpServer capability resourceId moment
  rw [ApprovalRequest.isValidFor_eq_ok_true_iff, ApprovalRequest.isValidFor_eq_ok_true_iff]
  constructor
  · intro authorizes
    refine ⟨{ authorizes with sameArguments := forApproved }, ?_⟩
    exact digests.mp (forApproved.symm.trans authorizes.sameArguments)
  · intro both
    obtain ⟨authorizes, same⟩ := both
    exact { authorizes with sameArguments := forApproved.trans (digests.mpr same) }

section Example

/-- A transfer as it was approved. -/
def approvedTransfer : Arguments where
  entries := [("to", .text "amy"), ("amount", .int 5)]
  keysDistinct := by decide

/-- The transfer as it is asked for. -/
def askedTransfer : Arguments where
  entries := [("amount", .int 5), ("to", .text "amy")]
  keysDistinct := by decide

def transferApproval : ApprovalRequest where
  id := 1
  jobId := 7
  tenantId := "acme"
  mcpServer := ⟨"bank", by decide⟩
  capability := ⟨"transfer", by decide⟩
  resourceId := ⟨"account", by decide⟩
  argumentDigest := argumentDigest approvedTransfer
  status := .granted
  reviewerId := some "bob"
  decidedAt := some ⟨0, true⟩
  requestedAt := ⟨0, true⟩
  expiresAt := ⟨1, true⟩
  zonesAgree := rfl
  expiresLater := by decide
  decidedByReviewer := fun _ => ⟨rfl, rfl⟩

theorem argumentDigest_binds_transfer :
    IsJson approvedTransfer ∧ IsJson askedTransfer ∧
      (canonicalText approvedTransfer = canonicalText askedTransfer ↔
        SameArguments approvedTransfer askedTransfer) ∧
      (transferApproval.argumentDigest = argumentDigest askedTransfer ↔
        SameArguments approvedTransfer askedTransfer) := by
  have isApproved : IsJson approvedTransfer := by
    refine ⟨by decide, trivial, trivial, trivial⟩
  have isAsked : IsJson askedTransfer := by
    refine ⟨by decide, trivial, trivial, trivial⟩
  have oneText : canonicalText approvedTransfer = canonicalText askedTransfer := by decide
  exact ⟨isApproved, isAsked, argumentDigest_binds.1 _ _ isApproved isAsked,
    (argumentDigest_binds.2 transferApproval approvedTransfer askedTransfer isApproved isAsked
      rfl fun _ => oneText).1⟩

end Example

end ResearchPlatform
