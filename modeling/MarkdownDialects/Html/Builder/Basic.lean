import MarkdownDialects.Html.ElementClass
import MarkdownDialects.Html.Token

/-!
# Building a document

The state in which a document is built from tokens: the nodes so far, the stack of open elements,
the list of formatting elements to open again, and the mode that decides how a token is taken.
-/

namespace MarkdownDialects

namespace Html

/-- How the next token is to be taken. -/
inductive Mode where
  | initial
  | beforeHtml
  | beforeHead
  | inHead
  | afterHead
  | inBody
  | text
  | inTable
  | inTableText
  | inCaption
  | inColumnGroup
  | inTableBody
  | inRow
  | inCell
  | inSelect
  | inSelectInTable
  | inTemplate
  | afterBody
  | inFrameset
  | afterFrameset
  | afterAfterBody
  | afterAfterFrameset
deriving DecidableEq

/-- An open element. -/
structure OpenElement where
  id : NodeId
  space : Namespace
  name : String
deriving DecidableEq

/-- An element to open again, with its tag, or a mark beyond which none is looked for. -/
inductive FormattingEntry where
  | marker
  | element (e : OpenElement) (tag : Tag)

/-- A document being built. -/
structure Builder where
  forest : Forest
  mode : Mode
  /-- The mode to go back to after text, or after text in a table. -/
  returnMode : Mode
  templateModes : List Mode
  /-- Text in a table that is not yet placed, newest first. -/
  tableText : List Text
  /-- Whether the document asks for the layout of old browsers. -/
  legacy : Bool
  /-- The open elements, innermost first. -/
  stack : List OpenElement
  /-- The formatting elements, newest first. -/
  formatting : List FormattingEntry
  head : Option OpenElement
  form : Option NodeId
  framesetOk : Bool
  /-- A line feed that comes next is dropped. -/
  dropLineFeed : Bool
  /-- Misplaced content of a table is put before the table. -/
  fostering : Bool
  /-- The contents of templates. -/
  templates : List (NodeId × NodeId)
  /-- How the text ahead is to be read. -/
  content : ContentMode

namespace Builder

/-- Before the first token. -/
def start : Builder where
  forest := .start
  mode := .initial
  returnMode := .initial
  templateModes := []
  tableText := []
  legacy := false
  stack := []
  formatting := []
  head := none
  form := none
  framesetOk := true
  dropLineFeed := false
  fostering := false
  templates := []
  content := .data

end Builder

end Html

end MarkdownDialects
