import MarkdownDialects.Line.Fence

/-!
# Kinds of lines

What one line of Markdown is, judged by itself: a heading, a list item, a table row, a thematic
break, a block quote, a fence delimiter, or plain text of a paragraph.  Only the underlined form
of headings needs the line that follows.
-/

namespace MarkdownDialects

/-- What a single line of Markdown is. -/
inductive LineKind where
  | heading
  | listItem
  | tableRow
  | thematicBreak
  | blockquoteStart
  | fenceDelimiter
  | plain
deriving DecidableEq

/-- The two families of list markers: `-`, `*`, `+`, and numbers with a full stop. -/
inductive ListFamily where
  | bullet
  | ordered
deriving DecidableEq

namespace Line

/-- A line of white space only. -/
abbrev isBlank (line : Text) : Bool := Text.isAllBlank line

/-- Whether a text begins with a white space character. -/
def startsBlank : Text → Bool
  | c :: _ => Text.isBlank c
  | [] => false

/-- A line that opens or closes a fenced block. -/
def isFenceDelimiter (line : Text) : Bool := (Fence.ofLine? line).isSome

/-- Up to three spaces, one to six `#`, then white space. -/
def isAtxHeading (line : Text) : Bool :=
  let indent := Fence.runLength ' ' line
  let rest := line.drop indent
  let hashes := Fence.runLength '#' rest
  indent ≤ 3 && 1 ≤ hashes && hashes ≤ 6 && startsBlank (rest.drop hashes)

/-- The family of a list marker and what follows the marker, for a line without indentation. -/
def splitMarker? : Text → Option (ListFamily × Text)
  | [] => none
  | c :: rest =>
    if c == '-' || c == '*' || c == '+' then some (.bullet, rest)
    else if c.isDigit then
      match rest.dropWhile Char.isDigit with
      | '.' :: after => some (.ordered, after)
      | _ => none
    else none

/-- The family of the list marker that starts a line.  White space must follow the marker. -/
def listMarker? (line : Text) : Option ListFamily :=
  match splitMarker? (Text.trimStart line) with
  | some (family, after) => if startsBlank after then some family else none
  | none => none

/-- A line that starts a list item. -/
def isListItem (line : Text) : Bool := (listMarker? line).isSome

/-- A row that starts with a pipe, or a delimiter row of `-`, `|`, `:` and spaces. -/
def isTableRow (line : Text) : Bool :=
  let shown := Text.trim line
  shown.head? == some '|' ||
    (3 ≤ shown.length && shown.contains '-' &&
      shown.all fun c => c == '-' || c == '|' || c == ':' || c == ' ')

/-- Three or more of the same `-`, `*` or `_`, and nothing else. -/
def isThematicBreak (line : Text) : Bool :=
  match Text.trim line with
  | [] => false
  | c :: rest =>
    (c == '-' || c == '*' || c == '_') && 2 ≤ rest.length && rest.all (· == c)

/-- A line that starts with `>` after its indentation. -/
def isBlockquoteStart (line : Text) : Bool := (Text.trimStart line).head? == some '>'

/-- Three or more `=`, or three or more `-`, and nothing else. -/
def isSetextUnderline (line : Text) : Bool :=
  let shown := Text.trim line
  3 ≤ shown.length && (shown.all (· == '=') || shown.all (· == '-'))

/-- The kind of a line on its own; the first kind that fits is the answer. -/
def kind (line : Text) : LineKind :=
  if isFenceDelimiter line then .fenceDelimiter
  else if isAtxHeading line then .heading
  else if isListItem line then .listItem
  else if isTableRow line then .tableRow
  else if isThematicBreak line then .thematicBreak
  else if isBlockquoteStart line then .blockquoteStart
  else .plain

/-- The kind of a line, given the line after it: plain text above an underline is a heading. -/
def kindBefore (line : Text) (next : Option Text) : LineKind :=
  match kind line with
  | .plain => if !isBlank line && next.any isSetextUnderline then .heading else .plain
  | other => other

end Line

/-- Every kind but plain text is structure. -/
def LineKind.isStructural (k : LineKind) : Bool := k != .plain

end MarkdownDialects
