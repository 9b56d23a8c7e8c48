import MarkdownDialects.Markdown.OpenBlock

/-!
# Documents

A document is read line by line.  Each line first continues as many open blocks as it can, then may
start new ones, and what is left of it is text for the innermost block.
-/

namespace MarkdownDialects

namespace Markdown

/-- The blocks of a document and its link definitions in order. -/
structure Document where
  blocks : List (Block Text)
  definitions : List Definition

/-- A document being read.  The innermost open block comes first, the document itself last. -/
structure Outline where
  spine : List OpenBlock
  definitions : List Definition
  lineNumber : Nat

namespace Outline

/-- Before the first line. -/
def start : Outline := ⟨[.ofKind .document], [], 0⟩

/-- A spine with a closed block put under its innermost block. -/
def attach (child : Option ClosedBlock) : List OpenBlock → List OpenBlock
  | parent :: rest =>
    { parent with children := child.toList ++ parent.children } :: rest
  | [] => []

/-- Close the innermost block. -/
def closeTop (spine : List OpenBlock) (definitions : List Definition) :
    List OpenBlock × List Definition :=
  match spine with
  | top :: rest =>
    let (child, found) := top.close
    (attach child rest, definitions ++ found)
  | [] => ([], definitions)

/-- Close the `n` innermost blocks. -/
def closeMany : Nat → List OpenBlock → List Definition → List OpenBlock × List Definition
  | 0, spine, definitions => (spine, definitions)
  | n + 1, spine, definitions =>
    let (spine, definitions) := closeTop spine definitions
    closeMany n spine definitions

/-- Close blocks until the innermost one admits a child of the given kind. -/
def closeUntilAdmits (kind : OpenKind) :
    List OpenBlock → List Definition → List OpenBlock × List Definition
  | top :: parent :: rest, definitions =>
    if top.kind.admits kind then (top :: parent :: rest, definitions)
    else
      let (child, found) := top.close
      closeUntilAdmits kind ({ parent with children := child.toList ++ parent.children } :: rest)
        (definitions ++ found)
  | spine, definitions => (spine, definitions)
termination_by spine => spine.length

/-- A line being read: the blocks it belongs to so far, innermost first, the open blocks below them
that it did not continue, outermost first, and the place reached. -/
structure LineState where
  spine : List OpenBlock
  unmatched : List OpenBlock
  definitions : List Definition
  cursor : Cursor
  /-- Some block was opened or replaced in this line. -/
  opened : Bool
  /-- The rest of the line is already used. -/
  done : Bool

namespace LineState

/-- The innermost block the line belongs to. -/
def container (s : LineState) : OpenKind := (s.spine.head?.map OpenBlock.kind).getD .document

/-- Close the blocks that the line did not continue. -/
def closeUnmatched (s : LineState) : LineState :=
  let (spine, definitions) :=
    closeMany s.unmatched.length (s.unmatched.reverse ++ s.spine) s.definitions
  { s with spine, definitions, unmatched := [] }

/-- A list that a block of another kind ends is judged as it stands then.  If its last item has an
open child, the blank lines before that child count, even if nothing is left of the child when it
is closed. -/
def judgeList (s : LineState) (kind : OpenKind) : LineState :=
  match s.unmatched with
  | last :: child :: inner =>
    if s.container.admits kind then s
    else
      let gapCertain := last.children.any ClosedBlock.endsBlank
      { s with unmatched := { last with gapCertain } :: child :: inner }
  | _ => s

/-- Open a block of the given kind at the cursor. -/
def openBlock (s : LineState) (kind : OpenKind) (cursor : Cursor) : LineState :=
  let s := (s.judgeList kind).closeUnmatched
  let (spine, definitions) := closeUntilAdmits kind s.spine s.definitions
  { s with spine := .ofKind kind :: spine, definitions, cursor, opened := true }

/-- Change the innermost block. -/
def modifyTop (s : LineState) (f : OpenBlock → OpenBlock) : LineState :=
  match s.spine with
  | top :: rest => { s with spine := f top :: rest }
  | [] => s

/-- A marker of a block quote and the space after it. -/
def blockquote? (s : LineState) : Option LineState :=
  if s.cursor.indent < 4 && s.cursor.shown.head? == some '>' then
    some (s.openBlock .blockquote s.cursor.skipBlanks.nextChar.skipBlank)
  else none

/-- One to six `#` and white space. -/
def atxHeading? (s : LineState) : Option LineState :=
  let shown := s.cursor.shown
  let level := Fence.runLength '#' shown
  let rest := shown.drop level
  if s.cursor.indent < 4 && 1 ≤ level && level ≤ 6 &&
      (rest.isEmpty || rest.head?.any Ascii.isBlank) then
    some (s.openBlock (.heading level) (s.cursor.skipBlanks.skipChars level).skipBlanks)
  else none

/-- Three or more backticks or tildes.  After backticks no further backtick may follow. -/
def codeFence? (s : LineState) : Option LineState :=
  let shown := s.cursor.shown
  match shown with
  | mark :: _ =>
    let length := Fence.runLength mark shown
    if s.cursor.indent < 4 && 3 ≤ length &&
        (mark == '~' || (mark == '`' && !(shown.drop length).contains '`')) then
      let start := s.cursor.skipBlanks
      let indent := s.cursor.rest.length - shown.length
      some (s.openBlock (.fencedCode ⟨mark, length⟩ indent) (start.skipChars length))
    else none
  | [] => none

/-- The start of an HTML block. -/
def htmlBlock? (s : LineState) : Option LineState :=
  if s.cursor.indent < 4 then
    (HtmlBlockKind.ofLine? (!s.container.isParagraph) s.cursor.shown).map fun kind =>
      s.openBlock (.html kind) s.cursor
  else none

/-- The level of heading that an underline gives to the paragraph above it. -/
def underlineLevel? (shown : Text) : Option Nat :=
  match shown with
  | c :: _ =>
    if (shown.dropWhile (· == c)).all Ascii.isBlank then
      if c == '=' then some 1 else if c == '-' then some 2 else none
    else none
  | [] => none

/-- An underline below a paragraph.  If the paragraph holds only link definitions, these are taken
out and the line becomes its text. -/
def setextHeading? (s : LineState) : Option LineState :=
  match s.spine, underlineLevel? s.cursor.shown with
  | top :: rest, some level =>
    if s.cursor.indent < 4 && top.kind.isParagraph then
      let content := top.content
      let (found, content) := Definition.readAll content.length content
      let definitions := s.definitions ++ found
      if OpenBlock.isBlankStart content then
        some { s with spine := { top with lines := [] } :: rest, definitions, opened := true }
      else
        let lines := (Text.trimEndBy (· == '\n') content).splitOn '\n'
        some { s with
          spine := { top with kind := .heading level, lines := lines.reverse } :: rest
          definitions
          cursor := s.cursor.skipAll
          opened := true }
    else none
  | _, _ => none

/-- Three or more `*`, `-` or `_`, with nothing but white space among them. -/
def isThematicBreak (shown : Text) : Bool :=
  match shown with
  | c :: _ =>
    (c == '*' || c == '-' || c == '_') && shown.all (fun d => d == c || Ascii.isBlank d) &&
      3 ≤ shown.count c
  | [] => false

/-- A thematic break. -/
def thematicBreak? (s : LineState) : Option LineState :=
  if s.cursor.indent < 4 && isThematicBreak s.cursor.shown then
    some (s.openBlock .thematicBreak s.cursor.skipAll)
  else none

/-- Whether a list marker ends here, and what follows may start an item.  Inside a paragraph an
item must not be empty. -/
def markerEnds (interrupts : Bool) (rest : Text) : Bool :=
  (rest.isEmpty || rest.head?.any Ascii.isTrimmed) && !(interrupts && rest.all Ascii.isBlank)

/-- The list marker at the start of a text, and its length.  A number that interrupts a paragraph
must be one. -/
def listMarker? (interrupts : Bool) : Text → Option (ListMarker × Nat)
  | [] => none
  | c :: rest =>
    if c == '*' || c == '-' || c == '+' then
      if markerEnds interrupts rest then some (⟨false, c, 1⟩, 1) else none
    else if c.isDigit then
      let digits := ((c :: rest).takeWhile Char.isDigit).take 9
      let start := Numeral.value digits
      match (c :: rest).drop digits.length with
      | sign :: rest =>
        if (sign == '.' || sign == ')') && !(interrupts && start != 1) &&
            markerEnds interrupts rest then
          some (⟨true, sign, start⟩, digits.length + 1)
        else none
      | [] => none
    else none

/-- The deepest nesting of blocks that one line may start with list markers. -/
def maxDepth : Nat := 100

/-- A list item, in a list of its own unless it continues the one it stands in. -/
def listItem? (s : LineState) (depth lineNumber : Nat) : Option LineState :=
  let indent := s.cursor.indent
  if indent < 4 && depth < maxDepth then
    (listMarker? s.container.isParagraph s.cursor.shown).map fun (marker, length) =>
      let after := s.cursor.skipBlanks.skipChars length
      let content := after.skipBlankColumns 6
      let gap := content.column - after.column
      let (padding, cursor) :=
        if gap < 1 || 5 ≤ gap || content.rest.isEmpty then (length + 1, after.skipBlank)
        else (length + gap, content)
      let s := match s.container with
        | .list current => if marker.continues current then s else s.openBlock (.list marker) cursor
        | _ => s.openBlock (.list marker) cursor
      s.openBlock (.item (indent + padding) lineNumber) cursor
  else none

/-- Code indented by four columns.  It cannot follow a paragraph line directly. -/
def indentedCode? (s : LineState) (afterParagraph : Bool) : Option LineState :=
  if 4 ≤ s.cursor.indent && !afterParagraph && !s.cursor.isBlank then
    some (s.openBlock .indentedCode (s.cursor.skipColumns 4))
  else none

/-- A delimiter row below a paragraph whose last line has as many cells makes that line the header
of a table.  Lines before it stay a paragraph. -/
def tableHeader? (s : LineState) : Option LineState :=
  match s.spine with
  | top :: rest =>
    match top.kind, top.lines with
    | .paragraph false, last :: earlier =>
      let shown := s.cursor.shown
      if TableRow.isDelimiterRow shown then
        match TableRow.ofLine? shown, TableRow.ofLine? last with
        | some delimiters, some header =>
          if header.length = delimiters.length then
            let before := ({ top with lines := earlier } : OpenBlock).content
            let preface := if earlier.isEmpty then none else
              some (ClosedBlock.leaf (.paragraph (trimAscii (TableRow.unescapePipes before))) false)
            let kind := OpenKind.table (delimiters.map TableRow.alignment?) header 0
            some { s with
              spine := .ofKind kind :: attach preface rest
              cursor := s.cursor.skipAll
              opened := true }
          else none
        | _, _ => none
      else none
    | _, _ => none
  | [] => none

/-- A further row of the table that the line belongs to, unless too many cells are missing
already. -/
def tableRow? (s : LineState) : Option LineState :=
  match s.spine with
  | top :: rest =>
    match top.kind with
    | .table alignments header missing =>
      if s.cursor.isBlank || TableRow.maxMissing < missing then none
      else (TableRow.ofLine? s.cursor.shown).map fun cells =>
        let columns := alignments.length
        let kind := OpenKind.table alignments header (missing + (columns - cells.length))
        let s := s.closeUnmatched
        { s with
          spine := { top with kind, rows := TableRow.fit columns cells :: top.rows } :: rest
          cursor := s.cursor.skipAll
          opened := true
          done := true }
    | _ => none
  | [] => none

/-- Remember that a delimiter row did not fit the paragraph above it. -/
def noteTableTried (s : LineState) : LineState :=
  if TableRow.isDelimiterRow s.cursor.shown && s.container.mayBeTable then
    s.modifyTop fun b => { b with kind := .paragraph true }
  else s

/-- Start one block at the cursor, if the line has the form of one there. -/
def startBlock? (s : LineState) (afterParagraph : Bool) (depth lineNumber : Nat) :
    Option LineState :=
  s.blockquote? <|> s.atxHeading? <|> s.codeFence? <|> s.htmlBlock? <|> s.setextHeading? <|>
    s.thematicBreak? <|> s.listItem? depth lineNumber <|> s.indentedCode? afterParagraph <|>
    if s.cursor.indent < 4 then s.tableHeader? <|> s.tableRow? else none

/-- Start all blocks that the line starts.  Each of them uses up a part of the line, so its length
bounds their number. -/
def startBlocks (lineNumber : Nat) : Nat → Nat → Bool → LineState → LineState
  | 0, _, _, s => s
  | fuel + 1, depth, afterParagraph, s =>
    if s.container.isLiteral || s.done then s
    else
      match s.startBlock? afterParagraph depth lineNumber with
      | some s =>
        if s.container.acceptsLines then s else startBlocks lineNumber fuel (depth + 1) false s
      | none => if s.cursor.indent < 4 then s.noteTableTried else s

/-- The text of a heading line without the closing run of `#`. -/
def chopHeading (t : Text) : Text :=
  let t := Text.trimEndBy Ascii.isTrimmed t
  let chopped := Text.trimEndBy (· == '#') t
  if chopped.isEmpty then []
  else if chopped.getLast?.any Ascii.isBlank then Text.trimEndBy Ascii.isTrimmed chopped
  else t

/-- Mark the newest child of the innermost block as followed by a blank line. -/
def markLastChild (s : LineState) : LineState :=
  match s.unmatched with
  | child :: rest => { s with unmatched := { child with blankAfter := true } :: rest }
  | [] =>
    s.modifyTop fun b =>
      match b.children with
      | child :: rest => { b with children := { child with blankAfter := true } :: rest }
      | [] => b

/-- Whether a blank line counts as one after the innermost block. -/
def countsBlank (s : LineState) (lineNumber : Nat) : Bool :=
  match s.container with
  | .blockquote => false
  | .heading _ => false
  | .thematicBreak => false
  | .fencedCode _ _ => false
  | .item _ startLine =>
    !s.unmatched.isEmpty || (s.spine.head?.any fun b => !b.children.isEmpty) ||
      startLine != lineNumber
  | _ => true

/-- Note whether the line is blank in the innermost block, and clear the note in all blocks around
it. -/
def noteBlank (s : LineState) (lineNumber : Nat) : LineState :=
  let blank := s.cursor.isBlank && !s.done
  let counts := blank && s.countsBlank lineNumber
  let s := if blank then s.markLastChild else s
  match s.spine with
  | top :: rest =>
    { s with
      spine := { top with blankAfter := counts } ::
        rest.map fun b => { b with blankAfter := false } }
  | [] => s

/-- Add a line to the innermost block as text. -/
def addText (s : LineState) : LineState :=
  let s := s.closeUnmatched
  match s.container with
  | .fencedCode _ _ => s.modifyTop (·.addLine s.cursor.text)
  | .indentedCode => s.modifyTop (·.addLine s.cursor.text)
  | .html kind =>
    let ended := kind.endsWith s.cursor.shown
    let s := s.modifyTop (·.addLine s.cursor.text)
    if ended then
      let (spine, definitions) := closeTop s.spine s.definitions
      { s with spine, definitions }
    else s
  | .heading _ =>
    if s.cursor.isBlank then s else s.modifyTop (·.addLine (chopHeading s.cursor.shown))
  | .paragraph _ =>
    if s.cursor.isBlank then s else s.modifyTop (·.addLine s.cursor.skipBlanks.text)
  | _ =>
    if s.cursor.isBlank then s
    else
      (s.openBlock (.paragraph false) s.cursor.skipBlanks).modifyTop
        (·.addLine s.cursor.skipBlanks.text)

/-- What is left of the line goes to the innermost block, or to the innermost paragraph if the line
merely lacks the markers of the blocks around that. -/
def finish (s : LineState) (lineNumber : Nat) : LineState :=
  let blank := s.cursor.isBlank
  let s := s.noteBlank lineNumber
  if s.done then s
  else
    match s.unmatched.reverse with
    | tip :: outer =>
      if !s.opened && !blank && tip.kind.isParagraph then
        { s with spine := tip.addLine s.cursor.text :: (outer ++ s.spine), unmatched := [] }
      else s.addText
    | [] => s.addText

end LineState

/-- The open blocks that a line continues.  The blocks still to be tried come outermost first. -/
def matchLine : List OpenBlock → List OpenBlock → Cursor →
    List OpenBlock × List OpenBlock × Cursor × Bool
  | matched, [], cursor => (matched, [], cursor, false)
  | matched, b :: rest, cursor =>
    match OpenBlock.continuation b.kind (!b.children.isEmpty || !rest.isEmpty) cursor with
    | .matched cursor => matchLine (b :: matched) rest cursor
    | .unmatched => (matched, b :: rest, cursor, false)
    | .closes => (b :: matched, rest, cursor, true)

/-- Read one line. -/
def readLine (o : Outline) (line : Text) : Outline :=
  let number := o.lineNumber + 1
  let line := if number = 1 then (Text.after? ['\ufeff'] line).getD line else line
  let tipIsParagraph := (o.spine.head?.map OpenBlock.kind).any OpenKind.isParagraph
  match matchLine [] o.spine.reverse (.ofLine line) with
  | (matched, _, _, true) =>
    let (spine, definitions) := closeTop matched o.definitions
    ⟨spine, definitions, number⟩
  | (matched, unmatched, cursor, false) =>
    let s : LineState := ⟨matched, unmatched, o.definitions, cursor, false, false⟩
    let s := (s.startBlocks number (line.length + 2) 1 tipIsParagraph).finish number
    ⟨s.spine, s.definitions, number⟩

end Outline

/-- The lines of a document.  Carriage returns, alone or before a line feed, end lines too. -/
def splitLines (t : Text) : List Text :=
  let rec go (line : Text) : Text → List Text
    | [] => if line.isEmpty then [] else [line.reverse]
    | '\r' :: '\n' :: rest => line.reverse :: go [] rest
    | c :: rest =>
      if c == '\n' || c == '\r' then line.reverse :: go [] rest
      else go ((if c == '\x00' then '\ufffd' else c) :: line) rest
  go [] t

/-- Read a document. -/
def Document.ofText (t : Text) : Document :=
  let outline := (splitLines t).foldl Outline.readLine Outline.start
  let (spine, definitions) :=
    Outline.closeMany (outline.spine.length - 1) outline.spine outline.definitions
  let blocks := spine.head?.map fun root => root.children.reverse.map ClosedBlock.block
  ⟨blocks.getD [], definitions⟩

end Markdown

end MarkdownDialects
