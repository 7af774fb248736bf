import Mathlib.Data.Finset.Dedup
import Mathlib.Data.Finset.Insert
import ResearchPlatform.Foundation.Regex
import ResearchPlatform.Foundation.Whitespace

/-!
# Sanitized tool results

`sanitizeResult` strips hidden characters from a tool result and bounds its size.
The injection flags, which change neither the text nor whether it was cut, are
kept apart, in `sanitizeAndFlag`.
-/

namespace ResearchPlatform

open Foundation

/-- `CONTROL_CHARACTERS`. -/
def isControlCharacter (char : Char) : Bool :=
  let code := char.toNat
  code ≤ 0x08 || code == 0x0b || code == 0x0c || (0x0e ≤ code && code ≤ 0x1f) ||
    code == 0x7f

/-- The code points of category `Cf`, as inclusive ranges. -/
def formatRanges : List (Nat × Nat) :=
  [(0xad, 0xad), (0x600, 0x605), (0x61c, 0x61c), (0x6dd, 0x6dd), (0x70f, 0x70f),
    (0x890, 0x891), (0x8e2, 0x8e2), (0x180e, 0x180e), (0x200b, 0x200f),
    (0x202a, 0x202e), (0x2060, 0x2064), (0x2066, 0x206f), (0xfeff, 0xfeff),
    (0xfff9, 0xfffb), (0x110bd, 0x110bd), (0x110cd, 0x110cd), (0x13430, 0x1343f),
    (0x1bca0, 0x1bca3), (0x1d173, 0x1d17a), (0xe0001, 0xe0001), (0xe0020, 0xe007f)]

/-- `unicodedata.category(character) == "Cf"`. -/
def isFormatCharacter (char : Char) : Bool :=
  formatRanges.any fun range => range.1 ≤ char.toNat && char.toNat ≤ range.2

/-- The text that `_strip_hidden_characters` leaves. -/
def stripHiddenCharacters (text : List Char) : List Char :=
  (text.filter (!isControlCharacter ·)).filter fun char =>
    !isFormatCharacter char || char == '\n'

/-- A run of spaces and tabs as `COLLAPSIBLE_WHITESPACE` leaves it. -/
def collapsedRun (run : List Char) : List Char :=
  if 3 ≤ run.length then [' ', ' '] else run

/-- `COLLAPSIBLE_WHITESPACE.sub("  ", text)`; `run` is the run of spaces and tabs
that is being read. -/
def collapseWhitespace (run : List Char) : List Char → List Char
  | [] => collapsedRun run
  | char :: rest =>
      if char = ' ' ∨ char = '\t' then collapseWhitespace (run ++ [char]) rest
      else collapsedRun run ++ char :: collapseWhitespace [] rest

/-- `text.encode("utf-8")`. -/
def encodeUtf8 (text : List Char) : List UInt8 :=
  text.flatMap String.utf8EncodeChar

/-- `encoded.decode("utf-8", errors="ignore")`: a byte that starts no character
is dropped.  The fuel is the number of bytes. -/
def decodeUtf8Ignoring : Nat → List UInt8 → List Char
  | 0, _ => []
  | _, [] => []
  | fuel + 1, byte :: rest =>
      match (ByteArray.mk (byte :: rest).toArray).utf8DecodeChar? 0 with
      | some char =>
          char :: decodeUtf8Ignoring fuel ((byte :: rest).drop char.utf8Size)
      | none => decodeUtf8Ignoring fuel rest

structure UntrustedContent where
  text : String
  byteLength : Nat
  truncated : Bool := false
  deriving DecidableEq

/-- `sanitize_result`, for the positive limit of a capability. -/
def sanitizeResult (text : String) (maxBytes : Nat) : UntrustedContent :=
  let normalized := collapseWhitespace [] (stripHiddenCharacters text.toList)
  let encoded := encodeUtf8 normalized
  if maxBytes < encoded.length then
    let kept := decodeUtf8Ignoring maxBytes (encoded.take maxBytes)
    { text := String.ofList kept
      byteLength := (encodeUtf8 kept).length
      truncated := true }
  else
    { text := String.ofList normalized, byteLength := encoded.length }

theorem sanitizeResult_truncated_iff {text : String} {maxBytes : Nat} :
    (sanitizeResult text maxBytes).truncated = true ↔
      maxBytes <
        (encodeUtf8
          (collapseWhitespace [] (stripHiddenCharacters text.toList))).length := by
  simp only [sanitizeResult]
  split
  · rename_i tooLong
    simp [tooLong]
  · rename_i within
    simp [within]

/-! ## Injection flags -/

inductive InjectionFlag where
  | instructionOverride
  | roleImpersonation
  | chatTemplateMarker
  | toolDirective
  | credentialRequest
  | hiddenCharacters
  deriving DecidableEq

section Patterns

open Regex

/-- `\w`, over `str.isalnum` of one character. -/
def isWordCharacter (isAlnum : Char → Bool) (char : Char) : Bool :=
  isAlnum char || char = '_'

variable (isAlnum : Char → Bool)

/-- `\b(text|..)\b`. -/
def wholeWord (texts : List String) : Regex :=
  sequence [boundary (isWordCharacter isAlnum), anyOf texts, boundary (isWordCharacter isAlnum)]

/-- `[^.\n]{0,most}`. -/
def nearby (most : Nat) : Regex := upTo (some most) true (noneOf ['.', '\n'])

/-- `[a-z_]`. -/
def isMarkerCharacter (char : Char) : Bool :=
  char = '_' || "abcdefghijklmnopqrstuvwxyz".toList.any (ignoringCase · char)

/-- `INJECTION_PATTERNS`. -/
def injectionPatterns : List (InjectionFlag × Regex) :=
  [(.instructionOverride, sequence
      [wholeWord isAlnum ["ignore", "disregard", "forget", "override"], nearby 40,
        wholeWord isAlnum ["previous", "prior", "earlier", "above", "all"], nearby 40,
        wholeWord isAlnum
          ["instruction", "instructions", "prompt", "prompts", "rule", "rules"]]),
    (.roleImpersonation, sequence
      [lineStart, star (char isWhitespace), anyOf ["system", "assistant", "developer"],
        star (char isWhitespace), literal ":"]),
    (.chatTemplateMarker, alt
      (sequence [literal "<|", plus (char isMarkerCharacter), literal "|>"])
      (alt (sequence [literal "[", upTo (some 1) true (literal "/"), literal "inst]"])
        (literal "<<sys>>"))),
    (.toolDirective, sequence
      [wholeWord isAlnum ["call", "invoke", "execute", "run"], nearby 30,
        wholeWord isAlnum ["tool", "function", "capability", "command"]]),
    (.credentialRequest, sequence
      [wholeWord isAlnum ["reveal", "print", "output", "send", "exfiltrate", "leak"],
        nearby 40, boundary (isWordCharacter isAlnum),
        alt (sequence
            [literal "api", upTo (some 1) true (oneOf [' ', '_', '-']), literal "key"])
          (anyOf ["secret", "token", "password", "credential", "credentials"]),
        boundary (isWordCharacter isAlnum)])]

/-- `detect_injection`. -/
def detectInjection (text : List Char) : Finset InjectionFlag :=
  (((injectionPatterns isAlnum).filter fun entry =>
    (entry.2.search text).isSome).map (·.1)).toFinset

end Patterns

/-- `UntrustedContent` with its flags. -/
structure FlaggedContent extends UntrustedContent where
  injectionFlags : Finset InjectionFlag := ∅
  deriving DecidableEq

/-- `sanitize_result`, with the flags that it computes of the text it keeps. -/
def sanitizeAndFlag (isAlnum : Char → Bool) (text : String) (maxBytes : Int) :
    Except String FlaggedContent :=
  if maxBytes ≤ 0 then
    .error "max_bytes must be positive"
  else
    let hidCharacters := stripHiddenCharacters text.toList ≠ text.toList
    let content := sanitizeResult text maxBytes.toNat
    let flags := detectInjection isAlnum content.text.toList
    .ok { content with
      injectionFlags := if hidCharacters then insert .hiddenCharacters flags else flags }

example : sanitizeResult "a \t  b\u200b\u00e9" 6 = ⟨"a  b\u00e9", 6, false⟩ := by decide

example : sanitizeResult "ab\u00e9" 3 = ⟨"ab", 2, true⟩ := by decide

end ResearchPlatform
