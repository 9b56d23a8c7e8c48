import MarkdownDialects.Html.Document
import MarkdownDialects.Serialize.Code
import MarkdownDialects.Serialize.Element
import MarkdownDialects.Serialize.Escape
import MarkdownDialects.Serialize.Table
import MarkdownDialects.Text.Numeral

/-!
# Writing HTML as Markdown

A document is walked in order.  Each element becomes a fragment of Markdown made from the fragments
of its children.  White space in text is collapsed as a browser does, which takes a small state from
one text to the next.
-/

namespace MarkdownDialects

namespace Serialize

open Html (Node)

/-- Elements that stand on lines of their own. -/
def blockTags : List String :=
  ["address", "article", "aside", "blockquote", "body", "dd", "details", "div", "dl", "dt",
    "fieldset", "figcaption", "figure", "footer", "form", "h1", "h2", "h3", "h4", "h5", "h6",
    "head", "header", "hr", "html", "li", "main", "nav", "ol", "p", "pre", "section", "summary",
    "table", "tbody", "td", "tfoot", "th", "thead", "tr", "ul"]

/-- Elements that are not written. -/
def hiddenTags : List String := ["head", "script", "style", "template", "title", "noscript"]

/-- Elements in which a comment stands on lines of its own.  The empty name is the document. -/
def commentParents : List String :=
  ["", "html", "body", "blockquote", "li", "div", "section", "article", "main", "aside", "header",
    "footer", "nav", "figure", "details", "dd"]

/-- The state carried from one text to the next. -/
structure Pen where
  /-- The next text drops the space it begins with. -/
  dropsSpace : Bool
  /-- Bars in text are escaped, since they would end a cell. -/
  inCell : Bool
deriving DecidableEq

namespace Pen

/-- Whether the next text drops the space it begins with. -/
def dropping (drops : Bool) (pen : Pen) : Pen := { pen with dropsSpace := drops }

/-- The state at the start of a cell of a table. -/
def cellStart : Pen := ⟨true, true⟩

/-- The state after a cell of a table. -/
def cellEnd (pen : Pen) : Pen := { pen with inCell := false }

/-- Escape bars if the text stands in a cell. -/
def escaping (pen : Pen) (t : Text) : Text := if pen.inCell then escapeBars t else t

end Pen

/-- Whether a character is white space that collapses. -/
def collapses (c : Char) : Bool := c == ' ' || c == '\t' || c == '\r' || c == '\n'

/-- A text with each run of white space made one space. -/
def collapse : Text → Text
  | [] => []
  | c :: rest =>
    if !collapses c then c :: collapse rest
    else
      match rest with
      | d :: _ => if collapses d then collapse rest else ' ' :: collapse rest
      | [] => [' ']

/-- Write text. -/
def writeText (t : Text) (pen : Pen) : Text × Pen :=
  let t := collapse t
  let t := if pen.dropsSpace then t.dropWhile (· == ' ') else t
  if t.isEmpty then ([], pen)
  else (pen.escaping (escape t), pen.dropping (t.getLast? == some ' '))

/-- Write a comment in the element of the given name. -/
def writeComment (parent : String) (t : Text) (pen : Pen) : Text × Pen :=
  let written := "<!--".toList ++ t ++ "-->".toList
  if commentParents.contains parent then (block written, pen)
  else (written, pen.dropping false)

/-- The title of a link or an image. -/
def titleSuffix (e : Element) : Text :=
  match e.attribute? "title" with
  | some title => " \"".toList ++ Text.replaceChar '"' ['\\', '"'] title ++ ['"']
  | none => []

/-- The level of a heading's tag. -/
def headingLevel? (tag : String) : Option Nat :=
  ["h1", "h2", "h3", "h4", "h5", "h6"].idxOf? tag |>.map (· + 1)

/-- A heading. -/
def heading (style : HeadingStyle) (level : Nat) (content : Text) : Text :=
  let content := Text.replaceChar '\n' [' '] (Text.trim content)
  block <|
    if style = .setext && level ≤ 2 && !content.isEmpty then
      content ++ '\n' :: Text.rep (max content.length 3) (if level = 1 then '=' else '-')
    else Text.rep level '#' ++ ' ' :: content

/-- A link, if there is somewhere to go. -/
def link (e : Element) (content : Text) : Text :=
  match e.attribute? "href" with
  | some href =>
    let href := Text.replaceChar ')' ['\\', ')'] (Text.replaceChar '(' ['\\', '('] href)
    '[' :: content ++ "](".toList ++ href ++ titleSuffix e ++ [')']
  | none => content

/-- An image, if there is one to show. -/
def image (e : Element) : Text :=
  match e.attribute? "src" with
  | some src =>
    let alt := Text.replaceChar '\n' [' '] ((e.attribute? "alt").getD [])
    "![".toList ++ alt ++ "](".toList ++ src ++ titleSuffix e ++ [')']
  | none => []

/-- An element, given the Markdown of its content. -/
def wrap (options : SerializeOptions) (e : Element) (content : Text) : Text :=
  let tag := e.tag
  match headingLevel? tag with
  | some level => heading options.headingStyle level content
  | none =>
    if tag == "html" || tag == "body" then content
    else if tag == "p" then block (Text.trim content)
    else if tag == "blockquote" then quote content
    else if tag == "em" || tag == "i" then delimit content options.emDelimiter
    else if tag == "strong" || tag == "b" then delimit content options.strongDelimiter
    else if tag == "del" || tag == "s" || tag == "strike" then delimit content ['~', '~']
    else if tag == "a" then link e content
    else if blockTags.contains tag then block content
    else content

/-- An element whose children are not walked. -/
def leaf? (options : SerializeOptions) (e : Element) (content : List Node) (pen : Pen) :
    Option (Text × Pen) :=
  let tag := e.tag
  if hiddenTags.contains tag then some ([], pen)
  else if tag == "pre" then some (codeBlock options.codeBlockStyle content, pen)
  else if tag == "hr" then some (block "---".toList, pen)
  else if tag == "br" then some ("  \n".toList, pen.dropping true)
  else if tag == "code" then
    some (pen.escaping (inlineCode (Node.textContents content)), pen.dropping false)
  else if tag == "img" then some (image e, pen.dropping false)
  else if tag == "input" then
    if e.attribute? "type" = some "checkbox".toList then
      some (if e.has "checked" then "[x] ".toList else "[ ] ".toList, pen.dropping true)
    else some ([], pen)
  else none

/-- The number of the first item of a list. -/
def listStart (e : Element) : Nat :=
  ((e.attribute? "start").bind fun t => Numeral.parse? (Text.trim t)).getD 1

/-- The mark of an item, given its place in the list.  Numbers have 64 bits. -/
def itemMark (options : SerializeOptions) (e : Element) (index : Nat) : Text :=
  if e.tag == "ol" then Numeral.digits ((listStart e + index) % Numeral.bound) ++ ['.', ' ']
  else [options.bullet, ' ']

/-- Whether the items of a list are set apart: some item has a paragraph. -/
def isLoose (content : List Node) : Bool :=
  content.any fun item => item.isNamed "li" && item.children.any (Node.isNamed "p")

/-- A list, given its items. -/
def listBlock (parent : String) (content : List Node) (items : List Text) : Text :=
  let body := (if isLoose content then ['\n', '\n'] else ['\n']).intercalate items
  if parent == "li" then '\n' :: body ++ ['\n'] else block body

/-- Whether a node is set apart from the text next to it. -/
def isBlockNode : Node → Bool
  | .element name _ _ => blockTags.contains name
  | .comment _ => true
  | .text _ => false

/-- Whether a node is text of white space only. -/
def isBlankText : Node → Bool
  | .text t => Text.isAllBlank t
  | _ => false

mutual

/-- Write a node in the element of the given name. -/
def writeNode (options : SerializeOptions) (rules : List ElementRule) (parent : String) :
    Node → Pen → Text × Pen
  | .text t, pen => writeText t pen
  | .comment t, pen => writeComment parent t pen
  | .element tag attributes content, pen =>
    let e : Element := ⟨tag, attributes⟩
    let isBlock := blockTags.contains tag
    let pen := if isBlock then pen.dropping true else pen
    let (out, pen) :=
      match rules.find? fun rule => rule.applies e with
      | some rule =>
        let (written, pen) := writeChildren options rules tag true content pen []
        (rule.write e written options, pen)
      | none =>
        match leaf? options e content pen with
        | some written => written
        | none =>
          if tag == "ul" || tag == "ol" then
            let (items, pen) := writeItems options rules (itemMark options e) 0 content pen
            (listBlock parent content items, pen)
          else if tag == "table" then
            let (rows, pen) := writeRows options rules content pen
            (tableBlock ((tableRows content).headD []) rows, pen)
          else
            let (written, pen) := writeChildren options rules tag true content pen []
            if tag == "li" then (block (listItem [options.bullet, ' '] written), pen)
            else (wrap options e written, pen)
    (out, if isBlock then pen.dropping true else pen)

/-- Write nodes after what is written so far.  White space next to blocks is not written;
`afterBlock` tells that the nodes come after one or begin their parent. -/
def writeChildren (options : SerializeOptions) (rules : List ElementRule) (parent : String) :
    Bool → List Node → Pen → Text → Text × Pen
  | _, [], pen, out => (out, pen)
  | afterBlock, n :: rest, pen, out =>
    if isBlankText n && (afterBlock || rest.head?.all isBlockNode) then
      writeChildren options rules parent false rest pen out
    else
      let (piece, pen) := writeNode options rules parent n pen
      writeChildren options rules parent (isBlockNode n) rest pen (join out piece)

/-- Write the items among the children of a list, the first with the mark for `index`. -/
def writeItems (options : SerializeOptions) (rules : List ElementRule) (mark : Nat → Text) :
    Nat → List Node → Pen → List Text × Pen
  | _, [], pen => ([], pen)
  | index, .element tag _ content :: rest, pen =>
    if tag == "li" then
      let (written, pen) := writeChildren options rules "li" true content (pen.dropping true) []
      let (items, pen) := writeItems options rules mark (index + 1) rest pen
      (listItem (mark index) written :: items, pen)
    else writeItems options rules mark index rest pen
  | index, _ :: rest, pen => writeItems options rules mark index rest pen

/-- Write the rows among the children of a table or of a part of it. -/
def writeRows (options : SerializeOptions) (rules : List ElementRule) :
    List Node → Pen → List (List Text) × Pen
  | [], pen => ([], pen)
  | .element tag _ content :: rest, pen =>
    if tag == "tr" then
      let (row, pen) := writeCells options rules content pen
      let (rows, pen) := writeRows options rules rest pen
      (row :: rows, pen)
    else if rowGroups.contains tag then
      let (front, pen) := writeGroup options rules content pen
      let (rows, pen) := writeRows options rules rest pen
      (front ++ rows, pen)
    else writeRows options rules rest pen
  | _ :: rest, pen => writeRows options rules rest pen

/-- Write the rows among the children of a part of a table. -/
def writeGroup (options : SerializeOptions) (rules : List ElementRule) :
    List Node → Pen → List (List Text) × Pen
  | [], pen => ([], pen)
  | .element tag _ content :: rest, pen =>
    if tag == "tr" then
      let (row, pen) := writeCells options rules content pen
      let (rows, pen) := writeGroup options rules rest pen
      (row :: rows, pen)
    else writeGroup options rules rest pen
  | _ :: rest, pen => writeGroup options rules rest pen

/-- Write the cells among the children of a row. -/
def writeCells (options : SerializeOptions) (rules : List ElementRule) :
    List Node → Pen → List Text × Pen
  | [], pen => ([], pen)
  | .element tag _ content :: rest, pen =>
    if isCellName tag then
      let (written, pen) := writeChildren options rules tag true content .cellStart []
      let (cells, pen) := writeCells options rules rest pen.cellEnd
      (cellText written :: cells, pen)
    else writeCells options rules rest pen
  | _ :: rest, pen => writeCells options rules rest pen

end

/-- Write a document. -/
def writeDocument (options : SerializeOptions) (rules : List ElementRule) (nodes : List Node) :
    Text :=
  Text.trimBy (fun c => c == '\n' || c == '\r' || c == '\t')
    (writeChildren options rules "" true nodes ⟨true, false⟩ []).1

end Serialize

/-- Write the document that some HTML describes as Markdown. -/
def serialize (options : SerializeOptions) (rules : List ElementRule) (html : Text) : Text :=
  Serialize.writeDocument options rules (Html.parse html)

end MarkdownDialects
