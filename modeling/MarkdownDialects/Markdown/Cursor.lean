import MarkdownDialects.Text.Ascii

/-!
# Reading a line by columns

Block structure is read from the start of a line.  Tabs reach to the next multiple of four columns,
and a tab may be used up only in part.
-/

namespace MarkdownDialects

namespace Markdown

/-- The distance between tab stops. -/
def tabStop : Nat := 4

/-- A place in a line.  If `insideTab` holds, the next character is a tab of which some columns are
already used. -/
structure Cursor where
  rest : Text
  column : Nat
  insideTab : Bool

namespace Cursor

/-- The start of a line. -/
def ofLine (line : Text) : Cursor := ⟨line, 0, false⟩

/-- Go one column ahead. -/
def nextColumn (c : Cursor) : Cursor :=
  match c.rest with
  | [] => c
  | '\t' :: rest =>
    if tabStop - c.column % tabStop = 1 then ⟨rest, c.column + 1, false⟩
    else ⟨c.rest, c.column + 1, true⟩
  | _ :: rest => ⟨rest, c.column + 1, false⟩

/-- Go some columns ahead. -/
def skipColumns : Nat → Cursor → Cursor
  | 0, c => c
  | n + 1, c => skipColumns n c.nextColumn

/-- Go one character ahead; what is left of a tab is used up at once. -/
def nextChar (c : Cursor) : Cursor :=
  match c.rest with
  | [] => c
  | '\t' :: rest => ⟨rest, c.column + (tabStop - c.column % tabStop), false⟩
  | _ :: rest => ⟨rest, c.column + 1, false⟩

/-- Go some characters ahead. -/
def skipChars : Nat → Cursor → Cursor
  | 0, c => c
  | n + 1, c => skipChars n c.nextChar

/-- The column after the spaces and tabs of a text that starts at `column`. -/
def columnAfterBlanks (column : Nat) : Text → Nat
  | ' ' :: rest => columnAfterBlanks (column + 1) rest
  | '\t' :: rest => columnAfterBlanks (column + (tabStop - column % tabStop)) rest
  | _ => column

/-- The number of columns of white space ahead. -/
def indent (c : Cursor) : Nat := columnAfterBlanks c.column c.rest - c.column

/-- The text after the white space ahead. -/
def shown (c : Cursor) : Text := c.rest.dropWhile Ascii.isBlank

/-- Nothing but white space is ahead. -/
def isBlank (c : Cursor) : Bool := c.shown.isEmpty

/-- Whether a space or tab is next. -/
def atBlank (c : Cursor) : Bool := c.rest.head?.any Ascii.isBlank

/-- Go one column ahead if white space is there. -/
def skipBlank (c : Cursor) : Cursor := if c.atBlank then c.nextColumn else c

/-- Go past the white space ahead. -/
def skipBlanks (c : Cursor) : Cursor := c.skipChars (c.rest.length - c.shown.length)

/-- Go past the white space ahead, as far as `n` columns. -/
def skipBlankColumns : Nat → Cursor → Cursor
  | 0, c => c
  | n + 1, c => if c.atBlank then skipBlankColumns n c.nextColumn else c

/-- Go to the end of the line. -/
def skipAll (c : Cursor) : Cursor := c.skipChars c.rest.length

/-- The text ahead; the unused columns of a tab are written as spaces. -/
def text (c : Cursor) : Text :=
  if c.insideTab then Text.rep (tabStop - c.column % tabStop) ' ' ++ c.rest.drop 1 else c.rest

end Cursor

end Markdown

end MarkdownDialects
