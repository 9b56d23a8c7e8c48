import MarkdownDialects.Html.Escape
import MarkdownDialects.Markdown.Document
import MarkdownDialects.Markdown.Inline.Reader

/-!
# Rendering as HTML

A document is written as a sequence of chunks: texts, and marks where a new line must begin.
-/

namespace MarkdownDialects

/-- What a renderer is asked for. -/
structure RenderOptions where
  /-- Pass raw HTML through. -/
  html : Bool := true
  /-- Make bare addresses links. -/
  linkify : Bool := true
  /-- Make every line end in a paragraph a hard break. -/
  breaks : Bool := false
deriving DecidableEq

namespace Markdown

/-- A piece of output. -/
inductive Chunk where
  | text (t : Text)
  /-- A new line begins here, unless one just has. -/
  | freshLine

namespace Chunk

/-- The text of a sequence of chunks; `fresh` tells whether a line has just begun. -/
def join (fresh : Bool) : List Chunk → Text
  | [] => []
  | .freshLine :: rest => if fresh then join true rest else '\n' :: join true rest
  | .text [] :: rest => join fresh rest
  | .text t :: rest => t ++ join (t.getLast? == some '\n') rest

/-- A fixed piece of output. -/
def str (s : String) : Chunk := .text s.toList

end Chunk

namespace Render

/-- Schemes of addresses that may run code or read files. -/
def dangerousSchemes : List String := ["javascript:", "vbscript:", "file:", "data:"]

/-- Image data in an address is harmless. -/
def imageData : List String := ["data:image/png", "data:image/gif", "data:image/jpeg",
  "data:image/webp"]

/-- Whether an address must not appear in output without raw HTML. -/
def isDangerous (url : Text) : Bool :=
  let starts (s : String) : Bool := Text.startsWith (Text.lowerAscii url) s.toList
  !imageData.any starts && dangerousSchemes.any starts

/-- The address of a link or an image. -/
def address (options : RenderOptions) (url : Text) : Text :=
  if options.html || !isDangerous url then Html.escapeAddress url else []

/-- The title attribute, if there is a title. -/
def titleAttribute (title : Text) : Text :=
  if title.isEmpty then [] else " title=\"".toList ++ Html.escape title ++ ['"']

/-- What stands in place of raw HTML that is not passed through. -/
def omitted : Text := "<!-- raw HTML omitted -->".toList

/-- A hard line break. -/
def hardBreak : Text := "<br />\n".toList

mutual

/-- A piece of content without any markup. -/
def plainInline : Inline → Text
  | .text t => Html.escape t
  | .softBreak => [' ']
  | .lineBreak => [' ']
  | .code literal => Html.escape literal
  | .html literal => Html.escape literal
  | .emphasis children => plainInlines children
  | .strong children => plainInlines children
  | .strikethrough children => plainInlines children
  | .link _ children => plainInlines children
  | .image _ children => plainInlines children

/-- Content without any markup. -/
def plainInlines : List Inline → Text
  | [] => []
  | i :: rest => plainInline i ++ plainInlines rest

end

mutual

/-- A piece of content as HTML. -/
def inline (options : RenderOptions) : Inline → Text
  | .text t => Html.escape t
  | .softBreak => if options.breaks then hardBreak else ['\n']
  | .lineBreak => hardBreak
  | .code literal => "<code>".toList ++ Html.escape literal ++ "</code>".toList
  | .html literal => if options.html then literal else omitted
  | .emphasis children => "<em>".toList ++ inlines options children ++ "</em>".toList
  | .strong children => "<strong>".toList ++ inlines options children ++ "</strong>".toList
  | .strikethrough children => "<del>".toList ++ inlines options children ++ "</del>".toList
  | .link target children =>
    "<a href=\"".toList ++ address options target.url ++ ['"'] ++ titleAttribute target.title ++
      ['>'] ++ inlines options children ++ "</a>".toList
  | .image target children =>
    "<img src=\"".toList ++ address options target.url ++ "\" alt=\"".toList ++
      plainInlines children ++ ['"'] ++ titleAttribute target.title ++ " />".toList

/-- Content as HTML. -/
def inlines (options : RenderOptions) : List Inline → Text
  | [] => []
  | i :: rest => inline options i ++ inlines options rest

end

/-- Block content between an opening and a closing tag. -/
def wrapped (opening : String) (inner : List Chunk) (closing : String) : List Chunk :=
  .freshLine :: .str opening :: inner ++ [.str closing]

/-- A paragraph; in a tight list it has no tags of its own. -/
def paragraph (tight : Bool) (inner : Text) : List Chunk :=
  if tight then [.text inner] else wrapped "<p>" [.text inner] "</p>\n"

/-- The text of a checkbox. -/
def checkbox (checked : Bool) : Text :=
  (if checked then "<input type=\"checkbox\" checked=\"\" disabled=\"\" /> "
    else "<input type=\"checkbox\" disabled=\"\" /> ").toList

/-- A checkbox `[ ]` or `[x]` at the start of an item, and the content after it.  White space or the
end of the text must follow it. -/
def splitCheckbox? : List Inline → Option (Bool × List Inline)
  | .text t :: rest =>
    match t.dropWhile Ascii.isSpace with
    | '[' :: c :: ']' :: after =>
      if (c == ' ' || c == 'x' || c == 'X') && after.head?.all Ascii.isSpace then
        some (c != ' ', Inline.consJoined (.text (after.drop 1)) rest)
      else none
    | _ => none
  | _ => none

/-- The alignment attribute of a cell. -/
def alignAttribute : Option Alignment → String
  | some .left => " align=\"left\""
  | some .right => " align=\"right\""
  | some .center => " align=\"center\""
  | none => ""

/-- The cells of a row between tags of the given name. -/
def cells (options : RenderOptions) (tag : String) (alignments : List (Option Alignment))
    (row : List (List Inline)) : List Chunk :=
  (alignments.zip row).flatMap fun (alignment, cell) =>
    wrapped ("<" ++ tag ++ alignAttribute alignment ++ ">") [.text (inlines options cell)]
      ("</" ++ tag ++ ">")

/-- One row of a table. -/
def row (options : RenderOptions) (tag : String) (alignments : List (Option Alignment))
    (contents : List (List Inline)) : List Chunk :=
  .freshLine :: .str "<tr>" :: cells options tag alignments contents ++ [.freshLine, .str "</tr>"]

/-- A table. -/
def table (options : RenderOptions) (alignments : List (Option Alignment))
    (header : List (List Inline)) (rows : List (List (List Inline))) : List Chunk :=
  let body := if rows.isEmpty then [] else
    [.freshLine, .str "<tbody>\n"] ++ rows.flatMap (row options "td" alignments) ++
      [.freshLine, .str "</tbody>\n"]
  [.freshLine, .str "<table>\n", .str "<thead>\n"] ++ row options "th" alignments header ++
    [.freshLine, .str "</thead>"] ++ body ++ [.freshLine, .str "</table>\n"]

/-- The tag of a heading. -/
def headingTag (level : Nat) : String := "h" ++ String.ofList (Numeral.digits level)

/-- The opening tag of a list. -/
def listTag (m : ListMarker) : String :=
  if !m.ordered then "<ul>\n"
  else if m.start = 1 then "<ol>\n"
  else "<ol start=\"" ++ String.ofList (Numeral.digits m.start) ++ "\">\n"

/-- The opening tags of a code block; the first word of the information string is its language.  A
block that is `math` and nothing else is marked as a formula on lines of its own. -/
def codeTag (info : Text) : Text :=
  if info.isEmpty then "<pre><code>".toList
  else if info == "math".toList then
    "<pre><code class=\"language-math\" data-math-style=\"display\">".toList
  else
    "<pre><code class=\"language-".toList ++
      Html.escape (info.takeWhile fun c => !Ascii.isTrimmed c) ++ "\">".toList

mutual

/-- A block as HTML. -/
def block (options : RenderOptions) (tight : Bool) : Block (List Inline) → List Chunk
  | .paragraph content => paragraph tight (inlines options content)
  | .heading level content =>
    wrapped ("<" ++ headingTag level ++ ">") [.text (inlines options content)]
      ("</" ++ headingTag level ++ ">\n")
  | .thematicBreak => [.freshLine, .str "<hr />\n"]
  | .code info literal =>
    [.freshLine, .text (codeTag info), .text (Html.escape literal), .str "</code></pre>\n"]
  | .html literal =>
    [.freshLine, .text (if options.html then literal else omitted), .freshLine]
  | .blockquote children =>
    .freshLine :: .str "<blockquote>\n" :: blocks options false children ++
      [.freshLine, .str "</blockquote>\n"]
  | .list marker tight items =>
    wrapped (listTag marker) (blocks options tight items)
      (if marker.ordered then "</ol>\n" else "</ul>\n")
  | .item (.paragraph content :: children) =>
    match splitCheckbox? content with
    | some (checked, rest) =>
      wrapped "<li>"
        (.text (checkbox checked) ::
          paragraph tight (inlines options rest) ++ blocks options tight children)
        "</li>\n"
    | none =>
      wrapped "<li>" (paragraph tight (inlines options content) ++ blocks options tight children)
        "</li>\n"
  | .item children => wrapped "<li>" (blocks options tight children) "</li>\n"
  | .table alignments header rows => table options alignments header rows

/-- Blocks as HTML.  Paragraphs directly inside the items of a tight list have no tags. -/
def blocks (options : RenderOptions) (tight : Bool) : List (Block (List Inline)) → List Chunk
  | [] => []
  | b :: rest => block options tight b ++ blocks options tight rest

end

end Render

/-- A Markdown text as HTML. -/
def render (options : RenderOptions) (t : Text) : Text :=
  let document := Document.ofText t
  let references := References.ofDefinitions (Utf8.size t) document.definitions
  let (blocks, _) := (Block.mapAllM (Inline.ofText options.linkify) document.blocks).run references
  Chunk.join true (Render.blocks options false blocks)

end Markdown

end MarkdownDialects
