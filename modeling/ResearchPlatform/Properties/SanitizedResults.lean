import Mathlib.Data.Finset.Basic
import Mathlib.Data.List.SplitBy
import ResearchPlatform.Mcp.Sanitizer

/-!
# What sanitizing leaves

The text of a sanitized result is the longest part of the cleaned text that fits.  To
sanitize it again changes nothing, and neither do removable characters in the input.
-/

namespace ResearchPlatform

open Foundation

/-! ## The specification -/

/-- The character is removed wherever it stands. -/
def isRemovable (char : Char) : Bool := isControlCharacter char || isFormatCharacter char

def isBlank (char : Char) : Bool := char = ' ' || char = '\t'

/-- A text in pieces: its maximal runs of blanks, and each other character apart. -/
def blankRuns (text : List Char) : List (List Char) :=
  text.splitBy fun first second => isBlank first && isBlank second

/-- The text without removable characters, where each maximal run of three blanks or more
is replaced by two spaces. -/
def fullText (text : List Char) : List Char :=
  (blankRuns (text.filter (!isRemovable ·))).flatMap fun run =>
    if 3 ≤ run.length then [' ', ' '] else run

/-- The text is the longest beginning of another whose encoding fits. -/
structure IsLongestPrefix (full : List Char) (maxBytes : Nat) (text : List Char) : Prop where
  isPrefix : text <+: full
  fits : (encodeUtf8 text).length ≤ maxBytes
  longest : ∀ other, other <+: full → (encodeUtf8 other).length ≤ maxBytes → other <+: text

/-- The second text is the first with removable characters put in anywhere. -/
inductive Inserts : List Char → List Char → Prop
  | nil : Inserts [] []
  | keep (char : Char) {text other : List Char} (rest : Inserts text other) :
      Inserts (char :: text) (char :: other)
  | insert {char : Char} {text other : List Char} (removable : isRemovable char = true)
      (rest : Inserts text other) : Inserts text (char :: other)

/-! ## The passes -/

section Passes

variable {text run full : List Char} {maxBytes : Nat}

theorem stripHiddenCharacters_eq :
    stripHiddenCharacters text = text.filter (!isRemovable ·) := by
  unfold stripHiddenCharacters
  rw [List.filter_filter]
  apply List.filter_congr
  intro char _
  by_cases isNewline : char = '\n'
  · subst isNewline
    decide
  · rw [beq_eq_false_iff_ne.mpr isNewline, Bool.or_false, isRemovable, Bool.not_or,
      Bool.and_comm]

theorem blankRuns_cons {char : Char} (solid : isBlank char = false) :
    blankRuns (run ++ char :: text) = blankRuns run ++ [char] :: blankRuns text := by
  have apart : blankRuns (char :: text) = [char] :: blankRuns text := by
    have alone : blankRuns [char] = [[char]] := rfl
    have whole : blankRuns ([char] ++ text) = blankRuns [char] ++ blankRuns text := by
      apply List.splitBy_append
      intro last isLast next _
      obtain rfl : char = last := by simpa using isLast
      simp [solid]
    rw [alone] at whole
    exact whole
  rw [← apart]
  apply List.splitBy_append_cons
  simp [solid]

theorem blankRuns_of_blank (some : run ≠ []) (blank : ∀ char ∈ run, isBlank char = true) :
    blankRuns run = [run] := by
  apply List.splitBy_of_isChain some
  apply List.Pairwise.isChain
  apply List.pairwise_of_forall_mem_list
  intro first isFirst second isSecond
  rw [blank first isFirst, blank second isSecond]
  rfl

/-- The pass reads the runs from the left: the induction is on what it has not read. -/
theorem collapseWhitespace_eq (blank : ∀ char ∈ run, isBlank char = true) :
    collapseWhitespace run text = (blankRuns (run ++ text)).flatMap collapsedRun := by
  have alone {run : List Char} (blank : ∀ char ∈ run, isBlank char = true) :
      (blankRuns run).flatMap collapsedRun = collapsedRun run := by
    cases run with
    | nil => rfl
    | cons first rest =>
        rw [blankRuns_of_blank (List.cons_ne_nil _ _) blank, List.flatMap_singleton]
  induction text generalizing run with
  | nil => rw [collapseWhitespace, List.append_nil, alone blank]
  | cons char rest inductionHypothesis =>
      unfold collapseWhitespace
      by_cases isSpace : char = ' ' ∨ char = '\t'
      · have longer : ∀ other ∈ run ++ [char], isBlank other = true := by
          intro other member
          rcases List.mem_append.mp member with earlier | last
          · exact blank other earlier
          · obtain rfl := List.mem_singleton.mp last
            simpa [isBlank] using isSpace
        rw [if_pos isSpace, inductionHypothesis longer, List.append_assoc,
          List.singleton_append]
      · have solid : isBlank char = false := by simpa [isBlank] using isSpace
        have single : collapsedRun [char] = [char] := rfl
        have fresh := @inductionHypothesis [] (by simp)
        rw [if_neg isSpace, fresh, blankRuns_cons solid, List.flatMap_append, alone blank,
          List.flatMap_cons, single, List.nil_append, List.singleton_append]

/-- The passes together make the full text. -/
theorem collapse_strip_eq : collapseWhitespace [] (stripHiddenCharacters text) = fullText text := by
  rw [collapseWhitespace_eq (by simp), stripHiddenCharacters_eq]
  rfl

/-! ## A text that was cleaned is clean -/

/-- No run of blanks is long enough to be replaced. -/
def ShortRuns (text : List Char) : Prop :=
  ∀ run, run <:+: text → (∀ char ∈ run, isBlank char = true) → run.length < 3

/-- A part of a text that avoids a character stands before it or after it. -/
theorem infix_beside {before after : List Char} {char : Char} (absent : char ∉ run)
    (isPart : run <:+: before ++ char :: after) : run <:+: before ∨ run <:+: after := by
  obtain ⟨first, last, whole⟩ := isPart
  rw [List.append_assoc] at whole
  rcases List.append_eq_append_iff.mp whole with ⟨between, rfl, later⟩ | ⟨between, rfl, later⟩
  · rcases List.append_eq_append_iff.mp later with ⟨rest, rfl, final⟩ | ⟨rest, rfl, final⟩
    · exact Or.inl ⟨first, rest, by simp⟩
    · cases rest with
      | nil => exact Or.inl ⟨first, [], by simp⟩
      | cons head tail =>
          obtain ⟨rfl, -⟩ := List.cons.inj final
          exact absurd (List.mem_append_right _ List.mem_cons_self) absent
  · cases between with
    | nil =>
        cases run with
        | nil => exact Or.inr List.nil_infix
        | cons head tail =>
            obtain ⟨rfl, -⟩ := List.cons.inj later
            exact absurd List.mem_cons_self absent
    | cons head tail =>
        obtain ⟨-, rfl⟩ := List.cons.inj later
        exact Or.inr ⟨tail, last, by simp⟩

theorem ShortRuns.part (short : ShortRuns full) (isPart : text <:+: full) : ShortRuns text :=
  fun run isRun => short run (isRun.trans isPart)

theorem shortRuns_collapsedRun : ShortRuns (collapsedRun run) := by
  intro other isPart _
  have short : (collapsedRun run).length < 3 := by
    unfold collapsedRun
    split
    · decide
    · omega
  exact isPart.length_le.trans_lt short

theorem shortRuns_collapseWhitespace : ShortRuns (collapseWhitespace run text) := by
  induction text generalizing run with
  | nil => exact shortRuns_collapsedRun
  | cons char rest inductionHypothesis =>
      unfold collapseWhitespace
      by_cases isSpace : char = ' ' ∨ char = '\t'
      · rw [if_pos isSpace]
        exact inductionHypothesis
      · rw [if_neg isSpace]
        intro other isPart blank
        have absent : char ∉ other := by
          intro member
          have isBlank := blank char member
          simp [ResearchPlatform.isBlank, isSpace] at isBlank
        rcases infix_beside absent isPart with before | after
        · exact shortRuns_collapsedRun other before blank
        · exact inductionHypothesis other after blank

/-- What a pass keeps are blanks and characters that were there. -/
theorem mem_collapseWhitespace {char : Char} (member : char ∈ collapseWhitespace run text) :
    char = ' ' ∨ char ∈ run ∨ char ∈ text := by
  have ofRun {run : List Char} (member : char ∈ collapsedRun run) : char = ' ' ∨ char ∈ run := by
    unfold collapsedRun at member
    split at member
    · left
      simpa using member
    · exact Or.inr member
  induction text generalizing run with
  | nil => exact (ofRun member).imp_right Or.inl
  | cons first rest inductionHypothesis =>
      unfold collapseWhitespace at member
      split at member
      · rcases inductionHypothesis member with space | inRun | inRest
        · exact Or.inl space
        · rcases List.mem_append.mp inRun with earlier | last
          · exact Or.inr (Or.inl earlier)
          · obtain rfl := List.mem_singleton.mp last
            exact Or.inr (Or.inr List.mem_cons_self)
        · exact Or.inr (Or.inr (List.mem_cons_of_mem _ inRest))
      · rcases List.mem_append.mp member with inRun | later
        · exact (ofRun inRun).imp_right Or.inl
        · rcases List.mem_cons.mp later with rfl | inRest
          · exact Or.inr (Or.inr List.mem_cons_self)
          · rcases inductionHypothesis inRest with space | impossible | inRest
            · exact Or.inl space
            · cases impossible
            · exact Or.inr (Or.inr (List.mem_cons_of_mem _ inRest))

/-- A short text passes unchanged. -/
theorem collapseWhitespace_of_shortRuns (blank : ∀ char ∈ run, isBlank char = true)
    (short : ShortRuns (run ++ text)) : collapseWhitespace run text = run ++ text := by
  have same {run after : List Char} (blank : ∀ char ∈ run, isBlank char = true)
      (short : ShortRuns (run ++ after)) : collapsedRun run = run := by
    have short := short run List.infix_append_left blank
    exact if_neg (by omega)
  induction text generalizing run with
  | nil => rw [collapseWhitespace, same blank short, List.append_nil]
  | cons char rest inductionHypothesis =>
      unfold collapseWhitespace
      by_cases isSpace : char = ' ' ∨ char = '\t'
      · have longer : ∀ other ∈ run ++ [char], isBlank other = true := by
          intro other member
          rcases List.mem_append.mp member with earlier | last
          · exact blank other earlier
          · obtain rfl := List.mem_singleton.mp last
            simpa [isBlank] using isSpace
        rw [if_pos isSpace, inductionHypothesis longer (by simpa using short)]
        simp
      · have later : ShortRuns ([] ++ rest) :=
          short.part ((List.suffix_cons char rest).isInfix.trans
            (List.suffix_append run (char :: rest)).isInfix)
        rw [if_neg isSpace, same blank short, inductionHypothesis (by simp) later,
          List.nil_append]

/-- The passes change nothing in a part of a full text. -/
theorem fullText_of_part {part : List Char} (isPart : part <:+: fullText text) :
    stripHiddenCharacters part = part ∧ fullText part = part := by
  rw [← collapse_strip_eq] at isPart
  have visible : ∀ char ∈ part, isRemovable char = false := by
    intro char member
    rcases mem_collapseWhitespace (isPart.subset member) with rfl | impossible | kept
    · decide
    · cases impossible
    · rw [stripHiddenCharacters_eq] at kept
      simpa using (List.mem_filter.mp kept).2
  have unstripped : stripHiddenCharacters part = part := by
    rw [stripHiddenCharacters_eq]
    apply List.filter_eq_self.mpr
    intro char member
    rw [visible char member]
    rfl
  have short : ShortRuns ([] ++ part) := shortRuns_collapseWhitespace.part isPart
  refine ⟨unstripped, ?_⟩
  rw [← collapse_strip_eq, unstripped, collapseWhitespace_of_shortRuns (by simp) short,
    List.nil_append]

theorem Inserts.filter_eq {other : List Char} (inserts : Inserts text other) :
    other.filter (!isRemovable ·) = text.filter (!isRemovable ·) := by
  induction inserts with
  | nil => rfl
  | keep char _ inductionHypothesis => rw [List.filter_cons, List.filter_cons, inductionHypothesis]
  | insert removable _ inductionHypothesis =>
      rw [List.filter_cons_of_neg (by simp [removable]), inductionHypothesis]

end Passes

/-! ## The cut -/

section Cut

variable {text full : List Char} {char : Char} {size fuel : Nat}

theorem mk_toArray_eq (bytes : List UInt8) : ByteArray.mk bytes.toArray = bytes.toByteArray :=
  ByteArray.ext List.data_toByteArray.symm

/-- A whole character is read first. -/
theorem utf8DecodeChar_append (after : List UInt8) :
    (ByteArray.mk (String.utf8EncodeChar char ++ after).toArray).utf8DecodeChar? 0 =
      some char := by
  rw [mk_toArray_eq, List.toByteArray_append]
  exact ByteArray.utf8DecodeChar?_utf8EncodeChar_append

/-- A part of a character without its last byte is none: it lacks an end, or a beginning. -/
theorem utf8DecodeChar_of_part {start : Nat} (short : size < char.utf8Size) :
    (ByteArray.mk
      (((String.utf8EncodeChar char).take size).drop start).toArray).utf8DecodeChar? 0 =
      none := by
  by_contra decodes
  obtain ⟨other, decoded⟩ := Option.ne_none_iff_exists'.mp decodes
  rw [mk_toArray_eq] at decoded
  have long := ByteArray.le_size_of_utf8DecodeChar?_eq_some decoded
  rw [List.size_toByteArray, List.length_drop, List.length_take,
    String.length_utf8EncodeChar] at long
  have positive := other.utf8Size_pos
  rcases Nat.eq_zero_or_pos start with rfl | later
  · have whole := ByteArray.utf8DecodeChar?_append_eq_some decoded
      ((String.utf8EncodeChar char).drop size).toByteArray
    rw [List.drop_zero, ← List.toByteArray_append, List.take_append_drop] at whole
    have read := @utf8DecodeChar_append char []
    rw [List.append_nil, mk_toArray_eq, whole] at read
    obtain rfl := Option.some.inj read
    omega
  · have isFirst := ByteArray.isUTF8FirstByte_of_isSome_utf8DecodeChar?
      (Option.isSome_of_eq_some decoded)
    rw [List.getElem_toByteArray, List.getElem_drop, List.getElem_take,
      UInt8.isUTF8FirstByte_getElem_utf8EncodeChar] at isFirst
    omega

theorem decode_of_part {start : Nat} (short : size < char.utf8Size) :
    decodeUtf8Ignoring fuel (((String.utf8EncodeChar char).take size).drop start) = [] := by
  induction fuel generalizing start with
  | zero => rfl
  | succ fuel inductionHypothesis =>
      have next := @inductionHypothesis (start + 1)
      have unread := @utf8DecodeChar_of_part char size start short
      rw [← List.tail_drop] at next
      cases bytes : ((String.utf8EncodeChar char).take size).drop start with
      | nil => rfl
      | cons byte rest =>
          rw [bytes] at next unread
          unfold decodeUtf8Ignoring
          rw [unread]
          exact next

theorem encodeUtf8_cons (char : Char) (text : List Char) :
    encodeUtf8 (char :: text) = String.utf8EncodeChar char ++ encodeUtf8 text :=
  List.flatMap_cons

theorem decode_append {after : List UInt8} :
    decodeUtf8Ignoring (fuel + 1) (String.utf8EncodeChar char ++ after) =
      char :: decodeUtf8Ignoring fuel after := by
  have read := @utf8DecodeChar_append char after
  have rest : (String.utf8EncodeChar char ++ after).drop char.utf8Size = after :=
    List.drop_left' (String.length_utf8EncodeChar char)
  cases bytes : String.utf8EncodeChar char with
  | nil => exact absurd bytes String.utf8EncodeChar_ne_nil
  | cons byte more =>
      rw [bytes, List.cons_append] at read rest
      rw [List.cons_append]
      conv_lhs => unfold decodeUtf8Ignoring
      rw [read]
      exact congrArg (fun left => char :: decodeUtf8Ignoring fuel left) rest

/-- The bytes that are left after a cut decode to the longest beginning that fits.  The
induction is on the text, a character of which is in the cut, or is not. -/
theorem isLongestPrefix_decode (enough : size ≤ fuel) :
    IsLongestPrefix full size (decodeUtf8Ignoring fuel ((encodeUtf8 full).take size)) := by
  induction full generalizing size fuel with
  | nil =>
      have nothing : decodeUtf8Ignoring fuel ((encodeUtf8 []).take size) = [] := by
        cases fuel with
        | zero => rfl
        | succ fuel => simp [encodeUtf8, decodeUtf8Ignoring]
      rw [nothing]
      exact ⟨List.prefix_rfl, Nat.zero_le _, fun _ isPrefix _ => isPrefix⟩
  | cons char rest inductionHypothesis =>
      have width := String.length_utf8EncodeChar char
      have positive := char.utf8Size_pos
      rw [encodeUtf8_cons]
      by_cases fits : char.utf8Size ≤ size
      · obtain ⟨fuel, rfl⟩ : ∃ less, fuel = less + 1 := ⟨fuel - 1, by omega⟩
        have longest := @inductionHypothesis (size - char.utf8Size) fuel (by omega)
        have split : (String.utf8EncodeChar char ++ encodeUtf8 rest).take size =
            String.utf8EncodeChar char ++ (encodeUtf8 rest).take (size - char.utf8Size) := by
          rw [List.take_append, width, List.take_of_length_le (width.trans_le fits)]
        rw [split, decode_append]
        refine ⟨List.cons_prefix_cons.mpr ⟨rfl, longest.isPrefix⟩, ?_, ?_⟩
        · rw [encodeUtf8_cons, List.length_append, width]
          have within := longest.fits
          omega
        · intro other isPrefix small
          cases other with
          | nil => exact List.nil_prefix
          | cons first more =>
              obtain ⟨rfl, later⟩ := List.cons_prefix_cons.mp isPrefix
              rw [encodeUtf8_cons, List.length_append, width] at small
              exact List.cons_prefix_cons.mpr
                ⟨rfl, longest.longest more later (by omega)⟩
      · have cut := @decode_of_part char size fuel 0 (by omega)
        rw [List.drop_zero] at cut
        rw [List.take_append_of_le_length (by omega), cut]
        refine ⟨List.nil_prefix, Nat.zero_le _, ?_⟩
        intro other isPrefix small
        cases other with
        | nil => exact List.nil_prefix
        | cons first more =>
            obtain ⟨rfl, -⟩ := List.cons_prefix_cons.mp isPrefix
            rw [encodeUtf8_cons, List.length_append, width] at small
            omega

end Cut

/-! ## The result -/

section Results

variable {isAlnum : Char → Bool} {text other : String} {maxBytes : Int}

/-- The text and its size, as they were specified. -/
theorem sanitizeResult_spec {size : Nat} :
    IsLongestPrefix (fullText text.toList) size (sanitizeResult text size).text.toList ∧
      (sanitizeResult text size).byteLength =
        (encodeUtf8 (sanitizeResult text size).text.toList).length ∧
      ((sanitizeResult text size).truncated = true ↔
        size < (encodeUtf8 (fullText text.toList)).length) := by
  refine ⟨?_, ?_, ?_⟩
  · unfold sanitizeResult
    rw [collapse_strip_eq]
    by_cases tooLong : size < (encodeUtf8 (fullText text.toList)).length
    · rw [if_pos tooLong, String.toList_ofList]
      exact isLongestPrefix_decode (Nat.le_refl size)
    · rw [if_neg tooLong, String.toList_ofList]
      exact ⟨List.prefix_rfl, Nat.le_of_not_lt tooLong, fun _ isPrefix _ => isPrefix⟩
  · simp only [sanitizeResult]
    split
    · rw [String.toList_ofList]
    · rw [String.toList_ofList]
  · rw [sanitizeResult_truncated_iff, collapse_strip_eq]

/-- Something was hidden exactly when there was a removable character. -/
theorem stripHiddenCharacters_ne_iff {characters : List Char} :
    stripHiddenCharacters characters ≠ characters ↔
      ∃ char ∈ characters, isRemovable char = true := by
  rw [stripHiddenCharacters_eq, Ne, List.filter_eq_self]
  simp

theorem hiddenCharacters_notMem_detectInjection {characters : List Char} :
    InjectionFlag.hiddenCharacters ∉ detectInjection isAlnum characters := by
  intro member
  obtain ⟨entry, found, isHidden⟩ := List.mem_map.mp (List.mem_toFinset.mp member)
  have isPattern := (List.mem_filter.mp found).1
  simp only [injectionPatterns, List.mem_cons, List.not_mem_nil, or_false] at isPattern
  rcases isPattern with rfl | rfl | rfl | rfl | rfl <;> cases isHidden

theorem sanitizeAndFlag_eq (positive : 0 < maxBytes) :
    ∃ content, sanitizeAndFlag isAlnum text maxBytes = .ok content ∧
      content.toUntrustedContent = sanitizeResult text maxBytes.toNat ∧
      (.hiddenCharacters ∈ content.injectionFlags ↔
        ∃ char ∈ text.toList, isRemovable char = true) ∧
      content.injectionFlags.erase .hiddenCharacters =
        detectInjection isAlnum content.text.toList := by
  have absent := @hiddenCharacters_notMem_detectInjection isAlnum
    (sanitizeResult text maxBytes.toNat).text.toList
  refine ⟨_, if_neg (by omega), rfl, ?_, ?_⟩
  · rw [← stripHiddenCharacters_ne_iff]
    by_cases hid : stripHiddenCharacters text.toList ≠ text.toList
    · simp [hid]
    · simp only [if_neg hid]
      exact iff_of_false absent hid
  · by_cases hid : stripHiddenCharacters text.toList ≠ text.toList
    · simp only [if_pos hid]
      exact Finset.erase_insert absent
    · simp only [if_neg hid]
      exact Finset.erase_eq_of_notMem absent

/-- The text that was kept is its own full text, and it fits. -/
theorem sanitizeResult_again {size : Nat} :
    sanitizeResult (sanitizeResult text size).text size =
      ⟨(sanitizeResult text size).text, (sanitizeResult text size).byteLength, false⟩ ∧
    ¬ ∃ char ∈ (sanitizeResult text size).text.toList, isRemovable char = true := by
  obtain ⟨longest, length, -⟩ := @sanitizeResult_spec text size
  obtain ⟨unstripped, same⟩ := fullText_of_part longest.isPrefix.isInfix
  refine ⟨?_, ?_⟩
  · have fits := longest.fits
    rw [sanitizeResult.eq_def _ size, collapse_strip_eq, same, if_neg (by omega),
      String.ofList_toList, ← length]
  · rw [← stripHiddenCharacters_ne_iff]
    exact not_not.mpr unstripped

theorem sanitizeResult_inserts {size : Nat} (inserts : Inserts text.toList other.toList) :
    sanitizeResult other size = sanitizeResult text size := by
  unfold sanitizeResult
  rw [stripHiddenCharacters_eq, stripHiddenCharacters_eq, inserts.filter_eq]

/-- The text of a result is the longest beginning of the full text that fits, with its exact
size, and the flags say whether it was cut and whether anything was hidden.  Sanitizing it
again changes nothing, and nor does inserting removable characters. -/
theorem sanitizeAndFlag_meetsSpecification (positive : 0 < maxBytes) :
    ∃ content, sanitizeAndFlag isAlnum text maxBytes = .ok content ∧
      IsLongestPrefix (fullText text.toList) maxBytes.toNat content.text.toList ∧
      content.byteLength = (encodeUtf8 content.text.toList).length ∧
      (content.truncated = true ↔
        maxBytes < (encodeUtf8 (fullText text.toList)).length) ∧
      (.hiddenCharacters ∈ content.injectionFlags ↔
        ∃ char ∈ text.toList, isRemovable char = true) ∧
      sanitizeAndFlag isAlnum content.text maxBytes =
        .ok { content with
          truncated := false
          injectionFlags := content.injectionFlags.erase .hiddenCharacters } ∧
      ∀ other : String, Inserts text.toList other.toList →
        ∃ hidden, sanitizeAndFlag isAlnum other maxBytes = .ok hidden ∧
          hidden.toUntrustedContent = content.toUntrustedContent ∧
          hidden.injectionFlags.erase .hiddenCharacters =
            content.injectionFlags.erase .hiddenCharacters := by
  obtain ⟨content, returned, same, hid, flags⟩ := @sanitizeAndFlag_eq isAlnum text _ positive
  obtain ⟨longest, length, truncated⟩ := @sanitizeResult_spec text maxBytes.toNat
  obtain ⟨again, visible⟩ := @sanitizeResult_again text maxBytes.toNat
  rw [← same] at longest length truncated again visible
  have cut : maxBytes.toNat < (encodeUtf8 (fullText text.toList)).length ↔
      maxBytes < (encodeUtf8 (fullText text.toList)).length := by omega
  refine ⟨content, returned, longest, length, truncated.trans cut, hid, ?_, ?_⟩
  · obtain ⟨second, returnedSecond, sameSecond, hidSecond, flagsSecond⟩ :=
      @sanitizeAndFlag_eq isAlnum content.text _ positive
    rw [again] at sameSecond
    have unflagged := Finset.erase_eq_of_notMem (mt hidSecond.mp visible)
    have sameText : second.text = content.text := congrArg (·.text) sameSecond
    rw [returnedSecond]
    rw [unflagged, sameText, ← flags] at flagsSecond
    obtain ⟨kept, keptFlags⟩ := second
    cases sameSecond
    cases flagsSecond
    rfl
  · intro other inserts
    obtain ⟨hidden, returnedHidden, sameHidden, -, flagsHidden⟩ :=
      @sanitizeAndFlag_eq isAlnum other _ positive
    rw [sanitizeResult_inserts inserts, ← same] at sameHidden
    refine ⟨hidden, returnedHidden, sameHidden, ?_⟩
    rw [flagsHidden, flags, sameHidden]

end Results

/-- A mark is hidden in the text, a run of blanks is shortened, and the last letter does not
fit. -/
def hiddenDirective : String := "run\u200b the   tool\u00e9"

theorem sanitizeAndFlag_meetsSpecification_at_directive :
    sanitizeAndFlag Char.isAlphanum hiddenDirective 14 =
        .ok ⟨⟨"run the  tool", 13, true⟩, {.hiddenCharacters, .toolDirective}⟩ ∧
      IsLongestPrefix (fullText hiddenDirective.toList) 14 "run the  tool".toList := by
  have result : sanitizeResult hiddenDirective 14 = ⟨"run the  tool", 13, true⟩ := by
    decide +kernel
  have flags : detectInjection Char.isAlphanum "run the  tool".toList = {.toolDirective} := by
    decide +kernel
  have hid : stripHiddenCharacters hiddenDirective.toList ≠ hiddenDirective.toList := by
    decide +kernel
  have returns : sanitizeAndFlag Char.isAlphanum hiddenDirective 14 =
      .ok ⟨⟨"run the  tool", 13, true⟩, {.hiddenCharacters, .toolDirective}⟩ := by
    have size : (14 : Int).toNat = 14 := rfl
    rw [sanitizeAndFlag, if_neg (by decide), size, result]
    simp only [flags, if_pos hid]
  have positive : (0 : Int) < 14 := by decide
  obtain ⟨content, returned, longest, -⟩ :=
    @sanitizeAndFlag_meetsSpecification Char.isAlphanum hiddenDirective 14 positive
  obtain rfl := Except.ok.inj (returns.symm.trans returned)
  exact ⟨returns, longest⟩

end ResearchPlatform
