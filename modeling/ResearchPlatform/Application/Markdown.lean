import ResearchPlatform.Agents.Sentences
import ResearchPlatform.Application.Publication
import ResearchPlatform.Persistence.Columns

/-!
# The report for a reader

`render_markdown` puts footnote numbers in place of evidence identifiers and lists the
sources.  How a date is written is left to a parameter.
-/

namespace ResearchPlatform

open Foundation

/-- `DRIFT_NOTES`. -/
def driftNote : DriftStatus → String
  | .unchanged => "source unchanged at publication"
  | .drifted => "**source content has changed since capture**"
  | .unavailable => "source could not be re-read at publication"
  | .notChecked => "source not re-checked"

/-- `footnote`, with the numbers that were given before. -/
def footnote (numbers : Dict UUID Nat) (identifier : List Char) :
    Except ValueError (Dict UUID Nat × List Char) :=
  match UUID.parse (String.ofList identifier) with
  | some cited =>
      let (number, numbers) := numbers.setDefault cited (numbers.entries.length + 1)
      .ok (numbers, '[' :: (toString number).toList ++ [']'])
  | none => .error ⟨"badly formed hexadecimal UUID string"⟩

/-- `CITATION.sub(footnote, text)`, piece by piece. -/
def substituteFootnotes (numbers : Dict UUID Nat) :
    List Piece → Except ValueError (Dict UUID Nat × List Char)
  | [] => .ok (numbers, [])
  | .char value :: rest => do
      let (numbers, text) ← substituteFootnotes numbers rest
      return (numbers, value :: text)
  | .citation identifier :: rest => do
      let (numbers, note) ← footnote numbers identifier
      let (numbers, text) ← substituteFootnotes numbers rest
      return (numbers, note ++ text)

/-- The lines of one section. -/
def sectionLines (reportSection : ReportSection) (body : List Char) : List String :=
  ["## " ++ reportSection.heading.val, "", String.ofList body, ""]

/-- The lines of the sections, and the numbers that they give. -/
def renderSections (numbers : Dict UUID Nat) :
    List ReportSection → Except ValueError (Dict UUID Nat × List String)
  | [] => .ok (numbers, [])
  | reportSection :: rest => do
      let (numbers, body) ←
        substituteFootnotes numbers (pieces reportSection.body.val.toList)
      let (numbers, lines) ← renderSections numbers rest
      return (numbers, sectionLines reportSection body ++ lines)

/-- The lines that say that the result is partial. -/
def bannerLines (report : ResearchReport) (shortfalls : List String) : List String :=
  if report.isPartial ∨ shortfalls ≠ [] then
    let reasons := if shortfalls ≠ [] then shortfalls else report.omittedBecause.map (·.val)
    ["> **Partial result.** This report is incomplete:", ">"] ++
      reasons.map (fun reason => "> - " ++ reason) ++ [""]
  else []

/-- The line of a source of which there is a record. -/
def recordLine (isoDate : Timestamp → String) (checks : List SourceCheck)
    (record : EvidenceRecord) (number : Nat) : String :=
  -- A later check of one record replaces an earlier one.
  let check := checks.reverse.find? (·.evidenceId = record.id)
  let note := driftNote ((check.map (·.status)).getD .notChecked)
  let title := (record.title.map (·.val)).getD ""
  let label := if title = "" then "" else title ++ " - "
  toString number ++ ". " ++ label ++ record.sourceUri.val ++ " (retrieved " ++
    isoDate record.retrievedAt ++ ", " ++ record.trustLevel.value ++ ", `" ++
    record.contentHash.val ++ "`; " ++ note ++ ") `" ++ record.id.str ++ "`"

/-- The line of a source of which there is none. -/
def unrecordedLine (identifier : UUID) (number : Nat) : String :=
  toString number ++ ". Unrecorded evidence `" ++ identifier.str ++ "`"

/-- One line of the source list. -/
def sourceLine (isoDate : Timestamp → String) (evidence : List EvidenceRecord)
    (checks : List SourceCheck) (identifier : UUID) (number : Nat) : String :=
  -- A later record of one identifier replaces an earlier one.
  match evidence.reverse.find? (·.id = identifier) with
  | none => unrecordedLine identifier number
  | some record => recordLine isoDate checks record number

/-- `render_markdown`. -/
def renderMarkdown (isoDate : Timestamp → String) (job : ResearchJob)
    (report : ResearchReport) (shortfalls : List String) (evidence : List EvidenceRecord)
    (checks : List SourceCheck) : Except ValueError String := do
  let (numbers, sections) ← renderSections ∅ report.sections
  let title := ["# " ++ report.title.val, "", "**Question:** " ++ job.question.val, ""]
  let sources := numbers.entries.map fun (identifier, number) =>
    sourceLine isoDate evidence checks identifier number
  let lines := title ++ bannerLines report shortfalls ++ sections ++ ["## Sources", ""] ++
    sources ++ (if numbers.entries = [] then ["No sources were cited."] else [])
  return "\n".intercalate lines ++ "\n"

end ResearchPlatform
