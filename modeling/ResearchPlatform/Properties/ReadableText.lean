import ResearchPlatform.Mcp.ReadableText

/-!
# The visible text of a document

The counter of `_ReadableText` is the number of skipped elements that are open.  It says what
the tree says as long as each of them is closed by a tag; a `head` may be closed without one,
and then all that follows is skipped.
-/

namespace ResearchPlatform

open Foundation

/-! ## Element trees -/

/-- Nodes of an element tree that follow one another, each element with whether its end tag is
written. -/
inductive Markup where
  | nothing
  | text (data : List Char) (rest : Markup)
  | element (tag : String) (endWritten : Bool) (children rest : Markup)
  deriving DecidableEq

namespace Markup

/-- The elements that have no end tag. -/
def voidElements : List String :=
  ["area", "base", "br", "col", "embed", "hr", "img", "input", "link", "meta", "source",
    "track", "wbr"]

def IsText : Markup → Prop
  | nothing => True
  | text _ rest => rest.IsText
  | element .. => False

def BeginsWithBody : Markup → Prop
  | element tag .. => tag = "body"
  | _ => False

/-- A title holds text only, and an end tag is left out where there is none, or where a `body`
follows a `head`. -/
def IsHtml : Markup → Prop
  | nothing => True
  | text _ rest => rest.IsHtml
  | element tag endWritten children rest =>
      (tag = "title" → children.IsText) ∧
        (endWritten = false → tag ∈ voidElements ∧ children = nothing ∨
          tag = "head" ∧ rest.BeginsWithBody) ∧
        children.IsHtml ∧ rest.IsHtml

/-- The events of the serialised nodes. -/
def events : Markup → List ParserEvent
  | nothing => []
  | text data rest => .data data :: rest.events
  | element tag endWritten children rest =>
      .startTag tag :: children.events ++ (if endWritten then [.endTag tag] else []) ++
        rest.events

/-! ## What a reader sees -/

/-- All data of the nodes. -/
def data : Markup → List Char
  | nothing => []
  | text data rest => data ++ rest.data
  | element _ _ children rest => children.data ++ rest.data

/-- The data inside the title elements. -/
def titleData : Markup → List Char
  | nothing => []
  | text _ rest => rest.titleData
  | element tag _ children rest =>
      (if tag = "title" then children.data else children.titleData) ++ rest.titleData

/-- The end of a line, at the tags of a block. -/
def lineBreak (tag : String) : List Char := if tag ∈ ReadableText.blocks then ['\n'] else []

/-- The data outside titles and outside skipped elements, with the ends of lines. -/
def visible (skipping : Bool) : Markup → List Char
  | nothing => []
  | text data rest => (if skipping then [] else data) ++ rest.visible skipping
  | element tag endWritten children rest =>
      (if tag = "title" then [] else
        lineBreak tag ++ children.visible (skipping || decide (tag ∈ ReadableText.skipped)) ++
          if endWritten then lineBreak tag else []) ++
        rest.visible skipping

/-- The title and the text of a document. -/
def readable (document : Markup) : List Char × List Char :=
  (joinWords document.titleData,
    ['\n'].intercalate (collapsedLines (document.visible false)))

/-! ## Heads without an end tag -/

/-- One for a `head` whose end tag is left out. -/
def openHead (tag : String) (endWritten : Bool) : Nat :=
  if tag = "head" ∧ endWritten = false then 1 else 0

def openHeads : Markup → Nat
  | nothing => 0
  | text _ rest => rest.openHeads
  | element tag endWritten children rest =>
      children.openHeads + openHead tag endWritten + rest.openHeads

/-- The visible data that comes after a `head` whose end tag is left out. -/
def afterOpenHead (skipping : Bool) : Markup → List Char
  | nothing => []
  | text _ rest => rest.afterOpenHead skipping
  | element tag endWritten children rest =>
      children.afterOpenHead (skipping || decide (tag ∈ ReadableText.skipped)) ++
        if children.openHeads + openHead tag endWritten = 0 then rest.afterOpenHead skipping
        else rest.visible skipping

end Markup

/-! ## The parser on the events of a tree -/

namespace ReadableText

variable {parser : ReadableText} {tag : String} {document : Markup}

/-- One for an element that is skipped. -/
def skips (tag : String) : Nat := if tag ∈ skipped then 1 else 0

def breakParts (tag : String) : List (List Char) := if tag ∈ blocks then [['\n']] else []

theorem not_mem_blocks (isSkipped : tag ∈ skipped) : tag ∉ blocks := by
  have apart : ∀ tag ∈ skipped, tag ∉ blocks := by decide
  exact apart tag isSkipped

/-- The parser outside titles, further on. -/
def advance (parser : ReadableText) (title : List Char) (parts : List (List Char))
    (opened : Nat) : ReadableText where
  title := parser.title ++ title
  parts := parser.parts ++ parts
  skipping := parser.skipping + opened
  inTitle := false

theorem advance_advance {title laterTitle : List Char} {parts laterParts : List (List Char)}
    {opened laterOpened : Nat} :
    (parser.advance title parts opened).advance laterTitle laterParts laterOpened =
      parser.advance (title ++ laterTitle) (parts ++ laterParts) (opened + laterOpened) := by
  simp [advance, Nat.add_assoc]

theorem advance_none (outside : parser.inTitle = false) : parser.advance [] [] 0 = parser := by
  simp [advance, ← outside]

theorem handleStarttag_eq (outside : parser.inTitle = false) (noTitle : tag ≠ "title") :
    parser.handleStarttag tag = parser.advance [] (breakParts tag) (skips tag) := by
  rw [handleStarttag, if_neg noTitle]
  by_cases isSkipped : tag ∈ skipped
  · simp [advance, skips, breakParts, isSkipped, not_mem_blocks isSkipped, outside]
  · by_cases isBlock : tag ∈ blocks
    · simp [advance, skips, breakParts, isSkipped, isBlock, outside]
    · simp [advance, skips, breakParts, isSkipped, isBlock, ← outside]

/-- An end tag after its start tag. -/
theorem handleEndtag_eq {title : List Char} {parts : List (List Char)} {opened : Nat}
    (noTitle : tag ≠ "title") :
    (parser.advance title parts (skips tag + opened)).handleEndtag tag =
      parser.advance title (parts ++ breakParts tag) opened := by
  rw [handleEndtag, if_neg noTitle]
  by_cases isSkipped : tag ∈ skipped
  · have one : skips tag = 1 := if_pos isSkipped
    have count : parser.skipping + (1 + opened) - 1 = parser.skipping + opened := by omega
    simp [advance, one, breakParts, isSkipped, not_mem_blocks isSkipped, count]
  · by_cases isBlock : tag ∈ blocks
    · simp [advance, skips, breakParts, isSkipped, isBlock]
    · simp [advance, skips, breakParts, isSkipped, isBlock]

theorem feed_append {first second : List ParserEvent} :
    parser.feed (first ++ second) = (parser.feed first).feed second := List.foldl_append

/-- Inside a title all data goes to the title. -/
theorem feed_data (isText : document.IsText) (inside : parser.inTitle = true) :
    parser.feed document.events = { parser with title := parser.title ++ document.data } := by
  induction document generalizing parser with
  | nothing => simp [Markup.events, Markup.data, feed]
  | text data rest inductionHypothesis =>
      have step : parser.feed (Markup.text data rest).events =
          (parser.handleData data).feed rest.events := rfl
      rw [step, handleData, if_pos inside]
      apply (@inductionHypothesis { parser with title := parser.title ++ data }
        isText inside).trans
      rw [Markup.data, List.append_assoc]
  | element => exact isText.elim

theorem feed_title (isText : document.IsText) :
    ((parser.handleStarttag "title").feed document.events).handleEndtag "title" =
      parser.advance document.data [] 0 := by
  have inside : (parser.handleStarttag "title").inTitle = true := rfl
  rw [feed_data isText inside]
  simp [handleStarttag, handleEndtag, advance]

end ReadableText

namespace Markup

variable {tag : String} {endWritten : Bool} {document children rest : Markup} {depth : Nat}

/-- What the parser writes where this many skipped elements are open. -/
def written (depth : Nat) : Markup → List (List Char)
  | nothing => []
  | text data rest => (if depth = 0 then [data] else []) ++ rest.written depth
  | element tag endWritten children rest =>
      (if tag = "title" then [] else
        ReadableText.breakParts tag ++ children.written (depth + ReadableText.skips tag) ++
          if endWritten then ReadableText.breakParts tag else []) ++
        rest.written (depth + (children.openHeads + openHead tag endWritten))

/-- Which end tags may be left out. -/
theorem skips_of_leftOut
    (optional : tag ∈ voidElements ∧ children = nothing ∨ tag = "head" ∧ rest.BeginsWithBody) :
    tag ≠ "title" ∧ ReadableText.skips tag = openHead tag false := by
  rcases optional with isVoid | isHead
  · have each : ∀ tag ∈ voidElements,
      tag ≠ "title" ∧ ReadableText.skips tag = openHead tag false := by decide
    exact each tag isVoid.1
  · rw [isHead.1]
    decide

theorem IsText.openHeads_eq (isText : document.IsText) : document.openHeads = 0 := by
  induction document with
  | nothing => rfl
  | text data rest inductionHypothesis => exact inductionHypothesis isText
  | element => exact isText.elim

/-- The parser on the events of a tree.  The induction is on the tree, for any number of open
elements. -/
theorem feed_events {parser : ReadableText} (isHtml : document.IsHtml)
    (outside : parser.inTitle = false) :
    parser.feed document.events = parser.advance document.titleData
      (document.written parser.skipping) document.openHeads := by
  induction document generalizing parser with
  | nothing => exact (ReadableText.advance_none outside).symm
  | text data rest inductionHypothesis =>
      have step : parser.handleData data =
          parser.advance [] (if parser.skipping = 0 then [data] else []) 0 := by
        rw [ReadableText.handleData, if_neg (by simp [outside])]
        by_cases shown : parser.skipping = 0
        · simp [ReadableText.advance, shown, outside]
        · rw [if_neg shown, if_neg shown, ReadableText.advance_none outside]
      change (parser.handleData data).feed rest.events = _
      rw [step, @inductionHypothesis (parser.advance _ _ _) isHtml rfl,
        ReadableText.advance_advance, List.nil_append, Nat.zero_add]
      rfl
  | element tag endWritten children rest onChildren onRest =>
      obtain ⟨isTitle, optional, childrenHtml, restHtml⟩ := isHtml
      have step : parser.feed (element tag endWritten children rest).events =
          (((parser.handleStarttag tag).feed children.events).feed
            (if endWritten then [.endTag tag] else [])).feed rest.events := by
        rw [events, ReadableText.feed_append]
        congr 1
        exact ReadableText.feed_append
      rw [step]
      by_cases title : tag = "title"
      · subst title
        have isText := isTitle rfl
        cases endWritten with
        | false => exact absurd rfl (skips_of_leftOut (optional rfl)).1
        | true =>
            change ReadableText.feed (ReadableText.handleEndtag _ "title") rest.events = _
            rw [ReadableText.feed_title isText, @onRest (parser.advance _ _ _) restHtml rfl,
              ReadableText.advance_advance, titleData, written, openHeads,
              isText.openHeads_eq]
            simp [openHead, ReadableText.advance]
      · rw [ReadableText.handleStarttag_eq outside title,
          @onChildren (parser.advance _ _ _) childrenHtml rfl, ReadableText.advance_advance]
        rw [titleData, written, openHeads, if_neg title, if_neg title]
        cases endWritten with
        | true =>
            change ReadableText.feed (ReadableText.handleEndtag _ tag) rest.events = _
            rw [ReadableText.handleEndtag_eq title, @onRest (parser.advance _ _ _) restHtml rfl,
              ReadableText.advance_advance]
            simp [openHead, ReadableText.advance]
        | false =>
            have count := (skips_of_leftOut (optional rfl)).2
            change (parser.advance _ _ _).feed rest.events = _
            rw [@onRest (parser.advance _ _ _) restHtml rfl, ReadableText.advance_advance,
              count, Nat.add_comm (openHead tag false)]
            simp [ReadableText.advance]

/-! ## What is written and what is visible -/

theorem flatten_breakParts : (ReadableText.breakParts tag).flatten = lineBreak tag := by
  unfold ReadableText.breakParts lineBreak
  by_cases isBlock : tag ∈ ReadableText.blocks
  · rw [if_pos isBlock, if_pos isBlock]
    rfl
  · rw [if_neg isBlock, if_neg isBlock]
    rfl

theorem solid_lineBreak : solid (lineBreak tag) = [] := by
  unfold lineBreak
  by_cases isBlock : tag ∈ ReadableText.blocks
  · rw [if_pos isBlock]
    decide
  · rw [if_neg isBlock]
    rfl

/-- The line that ends at an end tag. -/
def endBreak (tag : String) (endWritten : Bool) : List Char :=
  if endWritten then lineBreak tag else []

theorem solid_endBreak : solid (endBreak tag endWritten) = [] := by
  cases endWritten with
  | true => exact solid_lineBreak
  | false => rfl

theorem flatten_written_element (noTitle : tag ≠ "title") :
    ((element tag endWritten children rest).written depth).flatten =
      lineBreak tag ++ (children.written (depth + ReadableText.skips tag)).flatten ++
        endBreak tag endWritten ++
        (rest.written (depth + (children.openHeads + openHead tag endWritten))).flatten := by
  rw [written, if_neg noTitle]
  cases endWritten <;> simp [endBreak, flatten_breakParts]

theorem visible_element {skipping : Bool} (noTitle : tag ≠ "title") :
    (element tag endWritten children rest).visible skipping =
      lineBreak tag ++ children.visible (skipping || decide (tag ∈ ReadableText.skipped)) ++
        endBreak tag endWritten ++ rest.visible skipping := by
  rw [visible, if_neg noTitle]
  rfl

/-- Below a skipped element, or already inside one. -/
theorem skipping_add_skips :
    decide (depth + ReadableText.skips tag ≠ 0) =
      (decide (depth ≠ 0) || decide (tag ∈ ReadableText.skipped)) := by
  unfold ReadableText.skips
  by_cases isSkipped : tag ∈ ReadableText.skipped
  · simp [isSkipped]
  · simp [isSkipped]

/-- Below an open element only ends of lines are written. -/
theorem solid_written (below : depth ≠ 0) : solid (document.written depth).flatten = [] := by
  induction document generalizing depth with
  | nothing => rfl
  | text data rest inductionHypothesis =>
      rw [written, if_neg below]
      exact inductionHypothesis below
  | element tag endWritten children rest onChildren onRest =>
      have later := @onRest (depth + (children.openHeads + openHead tag endWritten)) (by omega)
      by_cases title : tag = "title"
      · rw [written, if_pos title]
        exact later
      · rw [flatten_written_element title, solid_append, solid_append, solid_append, later,
          onChildren (by omega), solid_lineBreak, solid_endBreak]
        rfl

/-- Where every head is closed by a tag, what is written is what is visible. -/
theorem written_eq_visible (closed : document.openHeads = 0) :
    (document.written depth).flatten = document.visible (decide (depth ≠ 0)) ∧
      document.afterOpenHead (decide (depth ≠ 0)) = [] := by
  induction document generalizing depth with
  | nothing => exact ⟨rfl, rfl⟩
  | text data rest inductionHypothesis =>
      obtain ⟨same, none⟩ := @inductionHypothesis depth closed
      refine ⟨?_, none⟩
      rw [written, visible, List.flatten_append, same]
      by_cases shown : depth = 0 <;> simp [shown]
  | element tag endWritten children rest onChildren onRest =>
      have parts : children.openHeads + openHead tag endWritten + rest.openHeads = 0 := closed
      have here : children.openHeads + openHead tag endWritten = 0 := by omega
      obtain ⟨inner, innerNone⟩ :=
        @onChildren (depth + ReadableText.skips tag) (by omega)
      obtain ⟨later, laterNone⟩ := @onRest depth (by omega)
      rw [skipping_add_skips] at inner innerNone
      refine ⟨?_, ?_⟩
      · by_cases title : tag = "title"
        · rw [written, visible, if_pos title, if_pos title, here]
          exact later
        · rw [flatten_written_element title, visible_element title, inner, here, Nat.add_zero,
            later]
      · rw [afterOpenHead, innerNone, if_pos here, laterNone]
        rfl

theorem IsText.closed (isText : document.IsText) {opened : Nat}
    (isOpened : opened = document.openHeads + openHead "title" endWritten) : opened = 0 := by
  rw [isOpened, isText.openHeads_eq, openHead, if_neg (by simp)]

/-- The two texts are one up to a head that is left open, and then no more than ends of lines
are written. -/
theorem exists_common (isHtml : document.IsHtml) :
    ∃ front back later, (document.written depth).flatten = front ++ back ∧
      document.visible (decide (depth ≠ 0)) = front ++ later ∧ solid back = [] ∧
      solid later = solid (document.afterOpenHead (decide (depth ≠ 0))) := by
  induction document generalizing depth with
  | nothing => exact ⟨[], [], [], rfl, rfl, rfl, rfl⟩
  | text data rest inductionHypothesis =>
      obtain ⟨front, back, later, isWritten, isVisible, noMore, lost⟩ :=
        @inductionHypothesis depth isHtml
      refine ⟨(if depth = 0 then data else []) ++ front, back, later, ?_, ?_, noMore, lost⟩
      · rw [written, List.flatten_append, isWritten]
        by_cases shown : depth = 0 <;> simp [shown]
      · rw [visible, isVisible]
        by_cases shown : depth = 0 <;> simp [shown]
  | element tag endWritten children rest onChildren onRest =>
      obtain ⟨isTitle, -, childrenHtml, restHtml⟩ := isHtml
      generalize isOpened : children.openHeads + openHead tag endWritten = opened
      by_cases closed : opened = 0
      · -- The nodes below are the same in both texts.
        have same := @written_eq_visible children (depth + ReadableText.skips tag) (by omega)
        rw [skipping_add_skips] at same
        obtain ⟨front, back, later, isWritten, isVisible, noMore, lost⟩ :=
          @onRest depth restHtml
        have lost' : solid later = solid
            ((element tag endWritten children rest).afterOpenHead (decide (depth ≠ 0))) := by
          rw [afterOpenHead, same.2, isOpened, if_pos closed, lost]
          rfl
        by_cases title : tag = "title"
        · refine ⟨front, back, later, ?_, ?_, noMore, lost'⟩
          · rw [written, if_pos title, isOpened, closed]
            exact isWritten
          · rw [visible, if_pos title]
            exact isVisible
        · refine ⟨lineBreak tag ++
            (children.written (depth + ReadableText.skips tag)).flatten ++
            endBreak tag endWritten ++ front, back, later, ?_, ?_, noMore, lost'⟩
          · rw [flatten_written_element title, isOpened, closed, Nat.add_zero, isWritten,
              List.append_assoc _ front]
          · rw [visible_element title, same.1, isVisible, List.append_assoc _ front]
      · -- A head is left open here or below, so that nothing of the rest is written.
        have title : tag ≠ "title" := by
          rintro rfl
          exact closed ((isTitle rfl).closed isOpened.symm)
        obtain ⟨front, back, later, isWritten, isVisible, noMore, lost⟩ :=
          @onChildren (depth + ReadableText.skips tag) childrenHtml
        rw [skipping_add_skips] at isVisible lost
        have unwritten := @solid_written rest (depth + opened) (by omega)
        refine ⟨lineBreak tag ++ front,
          back ++ endBreak tag endWritten ++ (rest.written (depth + opened)).flatten,
          later ++ endBreak tag endWritten ++ rest.visible (decide (depth ≠ 0)), ?_, ?_, ?_, ?_⟩
        · rw [flatten_written_element title, isOpened, isWritten]
          simp
        · rw [visible_element title, isVisible]
          simp
        · rw [solid_append, solid_append, noMore, solid_endBreak, unwritten]
          rfl
        · rw [solid_append, solid_append, lost, solid_endBreak, List.append_nil, afterOpenHead,
            isOpened, if_neg closed, solid_append]

/-- The title and the text are those of the document, unless a reader would see something after
a head whose end tag is left out. -/
theorem extractReadable_eq_iff (isHtml : document.IsHtml) :
    extractReadable document.events = document.readable ↔
      ∀ char ∈ document.afterOpenHead false, isWhitespace char = true := by
  obtain ⟨front, back, later, isWritten, isVisible, noMore, lost⟩ :=
    @exists_common document 0 isHtml
  have fed := @feed_events document {} isHtml rfl
  have found : extractReadable document.events = (joinWords document.titleData,
      ['\n'].intercalate (collapsedLines (front ++ back))) := by
    rw [extractReadable, fed, ← isWritten]
    rfl
  have title : document.readable = (joinWords document.titleData,
      ['\n'].intercalate (collapsedLines (front ++ later))) := by
    rw [← isVisible]
    rfl
  have lost' : solid later = solid (document.afterOpenHead false) := lost
  rw [found, title, ← solid_eq_nil_iff, ← lost']
  constructor
  · intro same
    rw [← solid_eq_of_collapsedLines (Prod.mk.inj same).2]
    exact noMore
  · intro nothingLost
    rw [collapsedLines_append_blank (solid_eq_nil_iff.mp noMore),
      collapsedLines_append_blank (solid_eq_nil_iff.mp nothingLost)]

end Markup

/-! ## A head without an end tag -/

section Example

/-- `<head><title>Report</title><body>Sales fell.</body>`. -/
def headLeftOpen : Markup :=
  .element "head" false (.element "title" true (.text "Report".toList .nothing) .nothing)
    (.element "body" true (.text "Sales fell.".toList .nothing) .nothing)

theorem headLeftOpen_loses_text :
    headLeftOpen.IsHtml ∧
      headLeftOpen.readable = ("Report".toList, "Sales fell.".toList) ∧
      extractReadable headLeftOpen.events = ("Report".toList, []) ∧
      extractReadable headLeftOpen.events ≠ headLeftOpen.readable := by
  refine ⟨?_, by decide +kernel, by decide +kernel, by decide +kernel⟩
  simp [headLeftOpen, Markup.IsHtml, Markup.IsText, Markup.BeginsWithBody]

/-- `<head></head><body><p>Sales</p><script>x</script>fell</body>`. -/
def headClosed : Markup :=
  .element "head" true .nothing
    (.element "body" true
      (.element "p" true (.text "Sales".toList .nothing)
        (.element "script" true (.text "x".toList .nothing) (.text "fell".toList .nothing)))
      .nothing)

theorem extractReadable_headClosed :
    extractReadable headClosed.events = headClosed.readable := by
  have isHtml : headClosed.IsHtml := by
    simp [headClosed, Markup.IsHtml]
  have nothingLost : headClosed.afterOpenHead false = [] := by decide +kernel
  apply (Markup.extractReadable_eq_iff isHtml).mpr
  simp [nothingLost]

end Example

end ResearchPlatform
