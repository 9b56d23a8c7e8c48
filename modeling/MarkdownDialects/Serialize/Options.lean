import MarkdownDialects.Text.Basic

/-!
# Options of the serializer
-/

namespace MarkdownDialects

/-- How code blocks are marked. -/
inductive CodeBlockStyle where
  | fenced
  | indented
deriving DecidableEq

/-- How headings are marked: by number signs, or the first two levels by a line below. -/
inductive HeadingStyle where
  | atx
  | setext
deriving DecidableEq

/-- The choices between spellings of the same Markdown. -/
structure SerializeOptions where
  codeBlockStyle : CodeBlockStyle := .fenced
  emDelimiter : Text := ['_']
  strongDelimiter : Text := ['*', '*']
  bullet : Char := '-'
  headingStyle : HeadingStyle := .atx
deriving DecidableEq

end MarkdownDialects
