import ResearchPlatform.Agents.Contracts
import ResearchPlatform.Domain.Invocations
import ResearchPlatform.Foundation.Whitespace

/-!
# Sentences and their citations

`ReportSection.sentences` and the rule that every factual sentence cites evidence.
-/

namespace ResearchPlatform

open Foundation

/-! ## The matches of `CITATION` -/

/-- A character of a text outside the matches of `CITATION`, or one of these matches. -/
inductive Piece where
  | char (value : Char)
  | citation (identifier : List Char)
  deriving DecidableEq

/-- The pieces of a text whose first characters belong to a match that was found already. -/
def piecesFrom : Nat → List Char → List Piece
  | _, [] => []
  | skip + 1, _ :: rest => piecesFrom skip rest
  | 0, char :: rest =>
      match citationAt (char :: rest) with
      | some identifier => .citation identifier :: piecesFrom 37 rest
      | none => .char char :: piecesFrom 0 rest

def pieces (text : List Char) : List Piece := piecesFrom 0 text

/-- `CITATION.sub("", text)`. -/
def removeCitations (text : List Char) : List Char :=
  (pieces text).filterMap fun
    | .char value => some value
    | .citation _ => none

/-! ## Sentences -/

/-- `(?<=[.!?])`, after the text. -/
def endsSentence (text : List Char) : Bool :=
  text.getLast?.any (· ∈ ['.', '!', '?'])

/-- `SENTENCE_BOUNDARY.split`, with the fragment that has begun, and whether its beginning is
a boundary that white space still belongs to. -/
def splitFrom (inBoundary : Bool) (current : List Char) : List Char → List (List Char)
  | [] => [current]
  | char :: rest =>
      if isWhitespace char ∧ inBoundary then splitFrom true current rest
      else if isWhitespace char ∧ endsSentence current then current :: splitFrom true [] rest
      else splitFrom false (current ++ [char]) rest

/-- `SENTENCE_BOUNDARY.split(text)`. -/
def splitSentences (text : List Char) : List (List Char) := splitFrom false [] text

/-- `not CITATION.sub("", candidate).strip()`. -/
def isCitationOnly (candidate : List Char) : Bool :=
  decide (trim (removeCitations candidate) = [])

/-- One turn of the loop of `sentences`. -/
def addFragment (fragments : List (List Char)) (fragment : List Char) : List (List Char) :=
  let candidate := trim fragment
  if candidate = [] then fragments
  else
    match fragments.getLast? with
    | some last =>
        if isCitationOnly candidate then fragments.dropLast ++ [last ++ ' ' :: candidate]
        else fragments ++ [candidate]
    | none => fragments ++ [candidate]

/-- `ReportSection.sentences`. -/
def ReportSection.sentences (reportSection : ReportSection) : List (List Char) :=
  (splitSentences (trim reportSection.body.val.toList)).foldl addFragment []

/-- `HEDGES`. -/
def hedges : List String :=
  ["we recommend", "this suggests", "in our view", "further research"]

/-- `sentence.lower().startswith(HEDGES)`. -/
def opensWithHedge (sentence : List Char) : Bool :=
  hedges.any fun hedge => hedge.toList <+: sentence.flatMap lowerChar

/-- `ReportSection.uncited_sentences`. -/
def ReportSection.uncitedSentences (reportSection : ReportSection) : List (List Char) :=
  reportSection.sentences.filter fun sentence =>
    citations sentence = [] ∧ ¬ opensWithHedge sentence

/-- What a section with uncited sentences is refused with; `repr` is that of Python. -/
def refuseUncited (repr : String → String) (reportSection : ReportSection) :
    Except ValueError Unit :=
  let uncited := reportSection.uncitedSentences
  if uncited = [] then .ok ()
  else .error ⟨"section " ++ repr reportSection.heading.val ++ " states uncited facts: [" ++
    ", ".intercalate ((uncited.take 3).map fun sentence => repr (String.ofList sentence)) ++ "]"⟩

/-- `every_factual_sentence_must_cite_evidence`, on the sections of a report. -/
def everyFactualSentenceMustCiteEvidence (repr : String → String)
    (sections : List ReportSection) : Except ValueError Unit :=
  sections.forM (refuseUncited repr)

end ResearchPlatform
