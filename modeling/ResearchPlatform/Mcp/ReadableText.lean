import ResearchPlatform.Foundation.Lines

/-!
# Readable text

`_ReadableText` reduces the tags and the data of an HTML document to its title and the text
that a reader would see.  The parser that finds tags and data is not modelled; the attributes
of a tag are not read.
-/

namespace ResearchPlatform

open Foundation

/-- What `HTMLParser` hands to `_ReadableText`. -/
inductive ParserEvent where
  | startTag (tag : String)
  | endTag (tag : String)
  | data (data : List Char)
  deriving DecidableEq

/-- `_ReadableText`. -/
structure ReadableText where
  title : List Char := []
  parts : List (List Char) := []
  skipping : Nat := 0
  inTitle : Bool := false
  deriving DecidableEq

namespace ReadableText

/-- `SKIPPED`. -/
def skipped : List String :=
  ["script", "style", "noscript", "template", "svg", "head", "iframe"]

/-- `BLOCKS`. -/
def blocks : List String :=
  ["p", "div", "br", "li", "tr", "section", "article", "h1", "h2", "h3", "h4", "h5", "h6"]

/-- `handle_starttag`. -/
def handleStarttag (parser : ReadableText) (tag : String) : ReadableText :=
  if tag = "title" then { parser with inTitle := true }
  else if tag ∈ skipped then { parser with skipping := parser.skipping + 1 }
  else if tag ∈ blocks then { parser with parts := parser.parts ++ [['\n']] }
  else parser

/-- `handle_endtag`. -/
def handleEndtag (parser : ReadableText) (tag : String) : ReadableText :=
  if tag = "title" then { parser with inTitle := false }
  else if tag ∈ skipped ∧ parser.skipping ≠ 0 then
    { parser with skipping := parser.skipping - 1 }
  else if tag ∈ blocks then { parser with parts := parser.parts ++ [['\n']] }
  else parser

/-- `handle_data`. -/
def handleData (parser : ReadableText) (data : List Char) : ReadableText :=
  if parser.inTitle then { parser with title := parser.title ++ data }
  else if parser.skipping = 0 then { parser with parts := parser.parts ++ [data] }
  else parser

def handle (parser : ReadableText) : ParserEvent → ReadableText
  | .startTag tag => parser.handleStarttag tag
  | .endTag tag => parser.handleEndtag tag
  | .data data => parser.handleData data

/-- `feed`, from the events of the document. -/
def feed (parser : ReadableText) (events : List ParserEvent) : ReadableText :=
  events.foldl handle parser

/-- `text`. -/
def text (parser : ReadableText) : List Char :=
  ['\n'].intercalate (collapsedLines parser.parts.flatten)

end ReadableText

/-- `extract_readable`, for a document with these events. -/
def extractReadable (events : List ParserEvent) : List Char × List Char :=
  let parser := ReadableText.feed {} events
  (joinWords parser.title, parser.text)

end ResearchPlatform
