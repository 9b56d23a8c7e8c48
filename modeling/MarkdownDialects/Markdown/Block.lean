import MarkdownDialects.Markdown.TableRow

/-!
# Blocks

The block structure of a document.  The inline content of its blocks is a parameter: a text as long
as it is still to be read.
-/

namespace MarkdownDialects

namespace Markdown

/-- What the items of a list start with.  Items of one list agree on everything but the number. -/
structure ListMarker where
  ordered : Bool
  /-- The bullet, or the character after the number. -/
  sign : Char
  /-- The number of an ordered item. -/
  start : Nat

/-- Whether two items belong to the same list. -/
def ListMarker.continues (m n : ListMarker) : Bool := m.ordered == n.ordered && m.sign == n.sign

/-- A block whose inline content is of type `α`: texts still to be read at first, then what was read
from them. -/
inductive Block (α : Type) where
  | paragraph (content : α)
  | heading (level : Nat) (content : α)
  | thematicBreak
  | code (info : Text) (literal : Text)
  | html (literal : Text)
  | blockquote (children : List (Block α))
  | list (marker : ListMarker) (tight : Bool) (items : List (Block α))
  | item (children : List (Block α))
  | table (alignments : List (Option Alignment)) (header : List α) (rows : List (List α))

namespace Block

variable {α β : Type} {m : Type → Type} [Monad m]

mutual

/-- Read the inline content of a block, in document order. -/
def mapM (read : α → m β) : Block α → m (Block β)
  | .paragraph content => return .paragraph (← read content)
  | .heading level content => return .heading level (← read content)
  | .thematicBreak => return .thematicBreak
  | .code info literal => return .code info literal
  | .html literal => return .html literal
  | .blockquote children => return .blockquote (← mapAllM read children)
  | .list marker tight items => return .list marker tight (← mapAllM read items)
  | .item children => return .item (← mapAllM read children)
  | .table alignments header rows => do
    let header ← header.mapM read
    let rows ← rows.mapM fun row => row.mapM read
    return .table alignments header rows

/-- Read the inline content of blocks, in document order. -/
def mapAllM (read : α → m β) : List (Block α) → m (List (Block β))
  | [] => return []
  | b :: rest => do
    let b ← mapM read b
    let rest ← mapAllM read rest
    return b :: rest

end

end Block

end Markdown

end MarkdownDialects
