import MarkdownDialects.Markdown.RawHtml

/-!
# HTML blocks

The seven kinds of HTML blocks: what starts each kind, and what ends it.
-/

namespace MarkdownDialects

namespace Markdown

/-- The kinds of HTML blocks. -/
inductive HtmlBlockKind where
  /-- `script`, `pre`, `style` or `textarea`, up to a closing tag of one of them. -/
  | verbatimElement
  | comment
  | instruction
  | declaration
  | section_
  /-- An element of block level, up to a blank line. -/
  | blockElement
  /-- A line that holds one complete tag, up to a blank line. -/
  | loneTag
deriving DecidableEq

namespace HtmlBlockKind

/-- The elements whose content is taken as it is. -/
def verbatimNames : List String := ["script", "pre", "textarea", "style"]

/-- The elements of block level. -/
def blockNames : List String :=
  ["address", "article", "aside", "base", "basefont", "blockquote", "body", "caption", "center",
    "col", "colgroup", "dd", "details", "dialog", "dir", "div", "dl", "dt", "fieldset",
    "figcaption", "figure", "footer", "form", "frame", "frameset", "h1", "h2", "h3", "h4", "h5",
    "h6", "head", "header", "hr", "html", "iframe", "legend", "li", "link", "main", "menu",
    "menuitem", "nav", "noframes", "ol", "optgroup", "option", "p", "param", "search", "section",
    "summary", "table", "tbody", "td", "tfoot", "th", "thead", "title", "tr", "track", "ul"]

/-- Whether a text begins with one of the names, in any case, and `follows` holds of the rest. -/
def startsWithName (names : List String) (follows : Text → Bool) (t : Text) : Bool :=
  names.any fun name =>
    Text.eqIgnoreAsciiCase (t.take name.length) name.toList && follows (t.drop name.length)

/-- Whether the tag name ends here: white space, the end of the line, or `>`. -/
def endsName : Text → Bool
  | [] => true
  | c :: _ => Ascii.isSpace c || c == '>'

/-- Whether the tag name ends here; `/>` may follow as well. -/
def endsNameOrTag (t : Text) : Bool := endsName t || Text.startsWith t ['/', '>']

/-- White space that may follow a lone tag on its line. -/
def isTagGap (c : Char) : Bool := Ascii.isBlank c || c == '\x0c'

/-- The kind of HTML block that a line starts, given the text of the line from its `<` on.  A lone
tag starts a block only where `loneTagCounts` holds. -/
def ofLine? (loneTagCounts : Bool) : Text → Option HtmlBlockKind
  | '<' :: t =>
    let name := match t with
      | '/' :: rest => rest
      | _ => t
    if startsWithName verbatimNames endsName t then some .verbatimElement
    else if Text.startsWith t "!--".toList then some .comment
    else if Text.startsWith t "?".toList then some .instruction
    else if Text.startsWith t "![".toList && (RawHtml.afterSectionStart? (t.drop 2)).isSome then
      some .section_
    else if Text.startsWith t "!".toList && (t.drop 1).head?.any Char.isUpper then
      some .declaration
    else if startsWithName blockNames endsNameOrTag name then some .blockElement
    else if loneTagCounts &&
        (RawHtml.afterTag? t).any fun rest => rest.all isTagGap then
      some .loneTag
    else none
  | _ => none

/-- Whether a text holds the given one. -/
def holds (needle t : Text) : Bool := (Text.cutAt? needle t).isSome

/-- Whether the kind ends at the first blank line. -/
def endsAtBlank : HtmlBlockKind → Bool
  | .blockElement => true
  | .loneTag => true
  | _ => false

/-- Whether a line is the last one of a block of this kind. -/
def endsWith (kind : HtmlBlockKind) (line : Text) : Bool :=
  match kind with
  | .verbatimElement =>
    verbatimNames.any fun name => holds ("</" ++ name ++ ">").toList (Text.lowerAscii line)
  | .comment => holds "-->".toList line
  | .instruction => holds "?>".toList line
  | .declaration => holds ">".toList line
  | .section_ => holds "]]>".toList line
  | .blockElement => false
  | .loneTag => false

end HtmlBlockKind

end Markdown

end MarkdownDialects
