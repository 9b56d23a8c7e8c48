import MarkdownDialects.Line.Fence
import MarkdownDialects.Markdown.Block
import MarkdownDialects.Markdown.Cursor
import MarkdownDialects.Markdown.HtmlBlock
import MarkdownDialects.Markdown.LinkSyntax

/-!
# Open blocks

While a document is read line by line, the blocks that may still grow form a chain from the
document down to the innermost one.  This module holds such an open block, the rule by which a line
continues it, and how it is closed.
-/

namespace MarkdownDialects

namespace Markdown

/-- What kind of block is open. -/
inductive OpenKind where
  | document
  | blockquote
  | list (marker : ListMarker)
  /-- An item whose content is indented by `width` columns, started in line `startLine`. -/
  | item (width startLine : Nat)
  /-- A paragraph; `tableTried` holds after a delimiter row failed to make it a table. -/
  | paragraph (tableTried : Bool)
  | heading (level : Nat)
  | thematicBreak
  | fencedCode (fence : Fence) (indent : Nat)
  | indentedCode
  | html (kind : HtmlBlockKind)
  /-- A table; its rows so far lack `missing` cells. -/
  | table (alignments : List (Option Alignment)) (header : List Text) (missing : Nat)

namespace OpenKind

/-- Leaf blocks that take further text as it comes. -/
def acceptsLines : OpenKind → Bool
  | .paragraph _ => true
  | .heading _ => true
  | .fencedCode _ _ => true
  | .indentedCode => true
  | _ => false

/-- Code and raw HTML, in which no other block can start. -/
def isLiteral : OpenKind → Bool
  | .fencedCode _ _ => true
  | .indentedCode => true
  | .html _ => true
  | _ => false

/-- Whether the block is a paragraph. -/
def isParagraph : OpenKind → Bool
  | .paragraph _ => true
  | _ => false

/-- Whether the block is a paragraph that may still become a table. -/
def mayBeTable : OpenKind → Bool
  | .paragraph tableTried => !tableTried
  | _ => false

/-- Whether a block of kind `child` may stand directly inside. -/
def admits (parent child : OpenKind) : Bool :=
  match parent, child with
  | .list _, .item _ _ => true
  | .document, .item _ _ => false
  | .blockquote, .item _ _ => false
  | .item _ _, .item _ _ => false
  | .document, _ => true
  | .blockquote, _ => true
  | .item _ _, _ => true
  | _, _ => false

end OpenKind

/-- A closed block among the children of an open one, with what the looseness of a list hangs on. -/
structure ClosedBlock where
  block : Block Text
  /-- The block is followed by a blank line. -/
  blankAfter : Bool
  /-- For a list or an item: its last child ends with a blank line. -/
  lastChildBlank : Bool
  /-- For an item: one of its children other than the last ends with a blank line. -/
  gapInside : Bool

namespace ClosedBlock

/-- A block with no children. -/
def leaf (block : Block Text) (blankAfter : Bool) : ClosedBlock := ⟨block, blankAfter, false, false⟩

/-- Whether a blank line ends the block. -/
def endsBlank (c : ClosedBlock) : Bool := c.blankAfter || c.lastChildBlank

end ClosedBlock

/-- A block that may still grow.  Lines, table rows and children are kept newest first. -/
structure OpenBlock where
  kind : OpenKind
  lines : List Text
  rows : List (List Text)
  children : List ClosedBlock
  blankAfter : Bool
  /-- For an item: a gap between its children is certain, whatever becomes of the open one. -/
  gapCertain : Bool

namespace OpenBlock

/-- A block that has just been opened. -/
def ofKind (kind : OpenKind) : OpenBlock := ⟨kind, [], [], [], false, false⟩

/-- The text collected so far; each line ends with a line feed. -/
def content (b : OpenBlock) : Text := b.lines.reverse.flatMap (· ++ ['\n'])

/-- The block with one more line. -/
def addLine (b : OpenBlock) (line : Text) : OpenBlock := { b with lines := line :: b.lines }

/-- How a line bears on an open block. -/
inductive Continuation where
  | matched (cursor : Cursor)
  | unmatched
  | closes

/-- Whether a line closes a fenced code block. -/
def closesFence (fence : Fence) (c : Cursor) : Bool :=
  let run := Fence.runLength fence.mark c.shown
  c.indent ≤ 3 && 3 ≤ run && fence.length ≤ run && (c.shown.drop run).all Ascii.isBlank

/-- Whether the line at the cursor continues an open block, and where the block's own part of the
line begins.  `hasChild` tells whether the block has any child yet. -/
def continuation (kind : OpenKind) (hasChild : Bool) (c : Cursor) : Continuation :=
  match kind with
  | .document => .matched c
  | .blockquote =>
    if c.indent ≤ 3 && c.shown.head? == some '>' then
      .matched (c.skipColumns (c.indent + 1)).skipBlank
    else .unmatched
  | .list _ => .matched c
  | .item width _ =>
    if width ≤ c.indent then .matched (c.skipColumns width)
    else if c.isBlank && hasChild then .matched c.skipBlanks
    else .unmatched
  | .paragraph _ => if c.isBlank then .unmatched else .matched c
  | .heading _ => .unmatched
  | .thematicBreak => .matched c
  | .fencedCode fence indent =>
    if closesFence fence c then .closes else .matched (c.skipBlankColumns indent)
  | .indentedCode =>
    if 4 ≤ c.indent then .matched (c.skipColumns 4)
    else if c.isBlank then .matched c.skipBlanks
    else .unmatched
  | .html kind => if kind.endsAtBlank && c.isBlank then .unmatched else .matched c
  | .table _ _ _ => if (TableRow.ofLine? c.shown).isSome then .matched c else .unmatched

/-- Whether the items of a list, newest first, leave it tight: no blank line lies between two items
or between two children of one item. -/
def isTight : List ClosedBlock → Bool
  | [] => true
  | last :: earlier =>
    !last.gapInside && earlier.all fun item =>
      !(item.blankAfter || item.gapInside || item.lastChildBlank)

/-- The information string and the text of a fenced code block. -/
def splitInfo (content : Text) : Text × Text :=
  let info := trimAscii (decodeReferences (content.takeWhile (· != '\n')))
  (unescape info, (content.dropWhile (· != '\n')).drop 1)

/-- Whether nothing but white space precedes the first line end of a text. -/
def isBlankStart (t : Text) : Bool := (t.takeWhile (· != '\n')).all Ascii.isBlank

/-- Close a block.  A paragraph first gives away the link definitions it starts with; one that
holds nothing else is no block. -/
def close (b : OpenBlock) : Option ClosedBlock × List Definition :=
  let leaf (block : Block Text) : Option ClosedBlock × List Definition :=
    (some (.leaf block b.blankAfter), [])
  let blocks := b.children.reverse.map ClosedBlock.block
  let lastBlank := b.children.head?.any ClosedBlock.endsBlank
  match b.kind with
  | .document => leaf (.blockquote blocks)
  | .blockquote => leaf (.blockquote blocks)
  | .list marker =>
    (some ⟨.list marker (isTight b.children) blocks, b.blankAfter, lastBlank, false⟩, [])
  | .item _ _ =>
    let gap := b.gapCertain || (b.children.drop 1).any ClosedBlock.endsBlank
    (some ⟨.item blocks, b.blankAfter, lastBlank, gap⟩, [])
  | .paragraph _ =>
    let content := b.content
    let (definitions, rest) := Definition.readAll content.length content
    if isBlankStart rest then (none, definitions)
    else (some (.leaf (.paragraph rest) b.blankAfter), definitions)
  | .heading level => leaf (.heading level b.content)
  | .thematicBreak => leaf .thematicBreak
  | .fencedCode _ _ =>
    let (info, literal) := splitInfo b.content
    leaf (.code info literal)
  | .indentedCode =>
    let kept := { b with lines := b.lines.dropWhile fun line => line.all Ascii.isBlank }
    leaf (.code [] kept.content)
  | .html _ => leaf (.html b.content)
  | .table alignments header _ => leaf (.table alignments header b.rows.reverse)

end OpenBlock

end Markdown

end MarkdownDialects
