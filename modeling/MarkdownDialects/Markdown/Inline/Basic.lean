import MarkdownDialects.Markdown.LinkSyntax

/-!
# Inline content

The inline content of a paragraph, a heading or a table cell.
-/

namespace MarkdownDialects

namespace Markdown

/-- A piece of inline content. -/
inductive Inline where
  | text (t : Text)
  | softBreak
  | lineBreak
  | code (literal : Text)
  | html (literal : Text)
  | emphasis (children : List Inline)
  | strong (children : List Inline)
  | strikethrough (children : List Inline)
  | link (target : Target) (children : List Inline)
  | image (target : Target) (children : List Inline)

namespace Inline

/-- Put a piece in front; neighbouring texts become one, and an empty text is left out. -/
def consJoined (i : Inline) (rest : List Inline) : List Inline :=
  match i, rest with
  | .text [], rest => rest
  | .text t, .text u :: rest => .text (t ++ u) :: rest
  | i, rest => i :: rest

/-- Pieces with neighbouring texts joined. -/
def joinTexts (is : List Inline) : List Inline := is.foldr consJoined []

end Inline

end Markdown

end MarkdownDialects
