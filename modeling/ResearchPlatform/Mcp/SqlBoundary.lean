import Mathlib.Data.List.Dedup
import Mathlib.Data.List.Sort
import Mathlib.Data.String.Basic
import ResearchPlatform.Domain.Invocations
import ResearchPlatform.Mcp.FilesystemBoundary
import ResearchPlatform.Mcp.Sanitizer

/-!
# The boundary of the SQL server

`parseAnalyticalQuery` accepts a single analytical read within the schema of a tenant, and
bounds its rows.  It looks at the text without comments and literals, and returns the text
itself.
-/

namespace ResearchPlatform

open Foundation

/-- `MAX_QUERY_LENGTH`. -/
def maxQueryLength : Nat := 8000

/-- `DEFAULT_ROW_LIMIT`. -/
def defaultRowLimit : Int := 1000

/-- `READ_ONLY_PREFIXES`. -/
def readOnlyPrefixes : List String := ["select", "with"]

/-- `FORBIDDEN_KEYWORDS`, in alphabetical order. -/
def forbiddenKeywords : List String :=
  ["alter", "analyze", "call", "comment", "copy", "create", "delete", "do", "drop",
    "execute", "explain", "grant", "insert", "listen", "lock", "merge", "notify", "prepare",
    "reassign", "refresh", "reindex", "reset", "revoke", "security", "set", "truncate",
    "update", "vacuum"]

/-- `FORBIDDEN_FUNCTIONS`, in alphabetical order. -/
def forbiddenFunctions : List String :=
  ["dblink", "lo_export", "lo_import", "pg_read_binary_file", "pg_read_file",
    "pg_reload_conf", "pg_sleep", "pg_terminate_backend"]

/-- What the screen asks about characters beyond ASCII. -/
structure CharacterTables where
  /-- `str.isalnum` of one character. -/
  isAlnum : Char → Bool
  /-- `unicodedata.decimal`. -/
  decimal : Char → Option Nat
  isAlnum_ascii : ∀ char : Char, char.toNat < 128 → isAlnum char = char.isAlphanum
  decimal_ascii : ∀ char : Char, char.toNat < 128 →
    decimal char = if char.isDigit then some (char.toNat - '0'.toNat) else none

/-! ## The patterns -/

section Patterns

open Regex

/-- `[a-z0-9_]`, where case counts. -/
def isPlainWordCharacter (char : Char) : Bool :=
  char.isLower || char.isDigit || char = '_'

/-- `[a-z_]`, where case counts. -/
def isPlainWordStart (char : Char) : Bool := char.isLower || char = '_'

/-- `[a-z0-9_]`, where case is ignored. -/
def isNameCharacter (char : Char) : Bool := isMarkerCharacter char || char.isDigit

/-- `LINE_COMMENT`. -/
def lineCommentPattern : Regex :=
  sequence [oneOf ['-'], oneOf ['-'], star (noneOf ['\n'])]

/-- `BLOCK_COMMENT`. -/
def blockCommentPattern : Regex :=
  sequence [oneOf ['/'], oneOf ['*'], upTo none false (noneOf []), oneOf ['*'], oneOf ['/']]

/-- `WORD`; a pattern without a group captures all of its match. -/
def wordPattern : Regex := word isPlainWordStart isPlainWordCharacter

/-- `STRING_LITERAL`. -/
def stringLiteralPattern : Regex :=
  sequence [oneOf ['\''], star (alt (noneOf ['\'']) (seq (oneOf ['\'']) (oneOf ['\'']))),
    oneOf ['\'']]

/-- `[a-z_][a-z0-9_]*`, captured, where case is ignored. -/
def namePattern : Regex := word isMarkerCharacter isNameCharacter

variable (tables : CharacterTables)

/-- `\b`. -/
def wordBoundary : Regex := boundary (isWordCharacter tables.isAlnum)

/-- `\b(?:from|join)\s+([a-z_][a-z0-9_]*)`. -/
def tablePattern : List Regex :=
  [wordBoundary tables, anyOf ["from", "join"], plus (char isWhitespace), namePattern]

/-- `QUALIFIED_NAME`. -/
def qualifiedNamePattern : Regex :=
  sequence (tablePattern tables ++ [star (char isWhitespace), oneOf ['.']])

/-- `UNQUALIFIED_TABLE`. -/
def unqualifiedTablePattern : Regex :=
  sequence (tablePattern tables ++
    [wordBoundary tables, notAhead (seq (star (char isWhitespace)) (oneOf ['.']))])

/-- `CTE_NAME`. -/
def cteNamePattern : Regex :=
  sequence
    [alt (sequence [wordBoundary tables, literal "with", plus (char isWhitespace)])
        (seq (oneOf [',']) (star (char isWhitespace))),
      namePattern, plus (char isWhitespace), literal "as", star (char isWhitespace),
      oneOf ['(']]

/-- `LIMIT_CLAUSE`. -/
def limitClausePattern : Regex :=
  sequence
    [wordBoundary tables, literal "limit", plus (char isWhitespace),
      group (plus (char fun char => (tables.decimal char).isSome)), wordBoundary tables]

end Patterns

/-! ## The screen -/

inductive SqlError where
  | queryNotAllowed (message : String)
  | valueError (message : String)
  deriving DecidableEq

structure AnalyticalQuery where
  sql : String
  schema : String
  rowLimit : Int
  deriving DecidableEq

/-- `_strip_comments_and_literals`. -/
def stripCommentsAndLiterals (sql : List Char) : List Char :=
  let withoutComments := blockCommentPattern.sub [' '] (lineCommentPattern.sub [' '] sql)
  stringLiteralPattern.sub ['\'', '\''] withoutComments

/-- `_split_statements`. -/
def splitStatements (sql : List Char) : List (List Char) :=
  ((sql.splitOnP (· = ';')).map trim).filter (· ≠ [])

/-- `text.lower()` as far as the screen can tell. -/
def lowerText (text : List Char) : List Char := text.flatMap lowerChar

/-- The names that a pattern captures in a statement, in small letters. -/
def lowerNames (pattern : Regex) (statement : List Char) : List String :=
  (pattern.findall statement).map fun name => String.ofList (lowerText name)

/-- The members of a set of texts, in order. -/
def sortedNames (texts : List String) : List String := texts.dedup.insertionSort (· ≤ ·)

/-- `if …: raise QueryNotAllowed(…)`. -/
def refuseIf (problem : Bool) (message : String) : Except SqlError Unit :=
  if problem then .error (.queryNotAllowed message) else .ok ()

/-- Refuse the texts that were found, if there are any. -/
def refuseAny (problem : String) (found : List String) : Except SqlError Unit :=
  refuseIf (found ≠ []) (problem ++ ": " ++ ", ".intercalate found)

/-- `_reject_foreign_schemas`. -/
def rejectForeignSchemas (tables : CharacterTables) (statement : List Char) (schema : String) :
    Except SqlError Unit := do
  let referenced := lowerNames (qualifiedNamePattern tables) statement
  refuseAny "query reads outside the tenant schema"
    (sortedNames (referenced.filter (· ≠ String.ofList (lowerText schema.toList))))
  let commonTableNames := lowerNames (cteNamePattern tables) statement
  refuseAny "every table must be schema-qualified"
    (sortedNames ((lowerNames (unqualifiedTablePattern tables) statement).filter fun name =>
      name ∉ ["select", "lateral"] ++ commonTableNames))

/-- `int(digits)`, for decimal digits. -/
def parseDigits (tables : CharacterTables) (digits : List Char) : Except SqlError Nat :=
  if 4300 < digits.length then
    .error (.valueError ("Exceeds the limit (4300 digits) for integer string conversion: " ++
      "value has " ++ toString digits.length ++
      " digits; use sys.set_int_max_str_digits() to increase the limit"))
  else
    .ok (digits.foldl (fun value digit => value * 10 + (tables.decimal digit).getD 0) 0)

/-- `_apply_row_limit`. -/
def applyRowLimit (tables : CharacterTables) (raw inspectable : List Char) (rowLimit : Int) :
    Except SqlError String := do
  let trimmed := ((raw.rdropWhile isWhitespace).rdropWhile (· = ';')).rdropWhile isWhitespace
  let bound := " LIMIT " ++ toString rowLimit
  match (limitClausePattern tables).search inspectable with
  | none => return String.ofList trimmed ++ bound
  | some digits =>
      if (← parseDigits tables digits) ≤ rowLimit then
        return String.ofList trimmed
      else
        let without := (limitClausePattern tables).sub [] trimmed
        return String.ofList (without.rdropWhile isWhitespace) ++ bound

/-- The checks of the single statement. -/
def checkStatement (tables : CharacterTables) (statement : List Char) (schema : String) :
    Except SqlError Unit := do
  let lowered := lowerText statement
  refuseIf (!readOnlyPrefixes.any fun start => start.toList.isPrefixOf lowered)
    "only SELECT and WITH queries are permitted"
  let words := (wordPattern.findall lowered).map String.ofList
  refuseAny "query uses forbidden keywords" (forbiddenKeywords.filter (· ∈ words))
  refuseAny "query uses forbidden functions" (forbiddenFunctions.filter (· ∈ words))
  rejectForeignSchemas tables statement schema

/-- `parse_analytical_query`. -/
def parseAnalyticalQuery (tables : CharacterTables) (sql schema : String)
    (rowLimit : Int := defaultRowLimit) : Except SqlError AnalyticalQuery := do
  refuseIf (schema.isEmpty || !wordPattern.fullmatch schema.toList)
    (reprText schema ++ " is not a valid tenant schema name")
  refuseIf (rowLimit < 1) "a row limit must admit at least one row"
  let raw := trim sql.toList
  refuseIf (raw = []) "a query must not be empty"
  refuseIf (maxQueryLength < raw.length)
    ("a query must not exceed " ++ toString maxQueryLength ++ " characters")
  let inspectable := stripCommentsAndLiterals raw
  match splitStatements inspectable with
  | [] => throw (.queryNotAllowed "a query must contain a statement")
  | _ :: _ :: _ => throw (.queryNotAllowed "only a single statement may be executed")
  | [statement] =>
      checkStatement tables statement schema
      let bounded ← applyRowLimit tables raw inspectable rowLimit
      return { sql := bounded, schema, rowLimit }

end ResearchPlatform
