import MarkdownDialects.Html.Builder.Head

/-!
# Building the body of a document

The rules for a document's body, which are also those for everything that stands inside tables,
templates and the like.
-/

namespace MarkdownDialects

namespace Html

namespace Builder

/-- A further tag of the body gives it more attributes. -/
def extendBody (b : Builder) (t : Tag) : Builder :=
  match b.stack.reverse with
  | _ :: body :: _ =>
    if body.isNamed "body" && !b.hasOpen "template" then
      { b with forest := b.forest.addAttributes body.id t.attributes }.withoutFrameset
    else b
  | _ => b

/-- A frame set replaces a body that has nothing in it. -/
def replaceBody (b : Builder) (t : Tag) : Builder :=
  match b.stack.reverse with
  | root :: body :: _ =>
    if b.framesetOk && body.isNamed "body" then
      { b with forest := b.forest.detach body.id, stack := [root], mode := .inFrameset }.insert t
    else b
  | _ => b

/-- Close the list item, term or description that a new one follows. -/
def closeItem (b : Builder) (names : List String) : Builder :=
  let stops (e : OpenElement) : Bool :=
    e.isIn ElementClass.special && !e.isIn ["address", "div", "p"]
  match b.stack.find? fun e => e.isIn names || stops e with
  | some e => if e.isIn names then (b.popImplied e.name).popThroughNamed e.name else b
  | none => b

/-- Open a form, unless one is open. -/
def openForm (b : Builder) (t : Tag) : Builder :=
  let inTemplate := b.hasOpen "template"
  if b.form.isSome && !inTemplate then b
  else
    let (b, e) := b.interruptParagraph.insertOpen .html t.name t.attributes
    if inTemplate then b else { b with form := some e.id }

/-- Close a form. -/
def closeForm (b : Builder) : Builder :=
  if b.hasOpen "template" then if b.hasInScope "form" then b.closeNamed "form" else b
  else
    match b.form with
    | none => b
    | some id =>
      let b := { b with form := none }
      if inScope (OpenElement.bounds ElementClass.scope) (·.id == id) b.stack then
        b.popAllImplied.removeOpen id
      else b

/-- A line break. -/
def lineBreak (b : Builder) (attributes : List Attribute) : Builder :=
  (b.reconstruct.insertClosed .html "br" attributes).1.withoutFrameset

/-- Open a selection list. -/
def openSelect (b : Builder) (t : Tag) : Builder :=
  let inTable := [.inTable, .inCaption, .inTableBody, .inRow, .inCell].contains b.mode
  let b := (b.reconstruct.insert t).withoutFrameset
  { b with mode := if inTable then .inSelectInTable else .inSelect }

/-- Put a drawing or a formula. -/
def openForeign (b : Builder) (space : Namespace) (t : Tag) : Builder :=
  let attributes := ElementClass.foreignAttributes space t.attributes
  let b := b.reconstruct
  if t.selfClosing then (b.insertClosed space t.name attributes).1
  else (b.insertOpen space t.name attributes).1

/-- Elements without content that stand in text. -/
def voidInText : List String := ["area", "br", "embed", "img", "keygen", "wbr", "input"]

/-- Start tags that mean nothing in a body. -/
def misplacedStarts : List String :=
  ["caption", "col", "colgroup", "frame", "head", "tbody", "td", "tfoot", "th", "thead", "tr"]

/-- A start tag of a block in a body, if it is one. -/
def openBlock? (b : Builder) (t : Tag) : Option Builder :=
  let block := b.interruptParagraph
  if ElementClass.blocks.contains t.name then some (block.insert t)
  else if ElementClass.headings.contains t.name then
    some <| if block.currentIs (·.isIn ElementClass.headings) then block.pop.insert t
      else block.insert t
  else if t.name == "pre" || t.name == "listing" then
    some { (block.insert t).withoutFrameset with dropLineFeed := true }
  else if t.name == "form" then some (b.openForm t)
  else if t.name == "li" then
    some <| (b.withoutFrameset.closeItem ["li"]).interruptParagraph.insert t
  else if t.name == "dd" || t.name == "dt" then
    some <| (b.withoutFrameset.closeItem ["dd", "dt"]).interruptParagraph.insert t
  else if t.name == "plaintext" then some { block.insert t with content := .plainText }
  else if t.name == "table" then
    let b := if b.legacy then b else block
    some { (b.insert t).withoutFrameset with mode := .inTable }
  else if t.name == "hr" then some (block.insertVoid t).withoutFrameset
  else if t.name == "xmp" then some (block.reconstruct.withoutFrameset.insertRaw t .rawText)
  else none

/-- A start tag of an element that stands in text. -/
def openInText (b : Builder) (t : Tag) : Builder :=
  let name := t.name
  if name == "button" then
    let b := if b.hasInScope "button" then b.closeNamed "button" else b
    (b.reconstruct.insert t).withoutFrameset
  else if name == "a" then b.endOpenLink.reconstruct.insertFormatting t
  else if ElementClass.formatting.contains name then b.reconstruct.insertFormatting t
  else if name == "nobr" then
    let b := b.reconstruct
    (if b.hasInScope "nobr" then (b.adopt "nobr").reconstruct else b).insertFormatting t
  else if ["applet", "marquee", "object"].contains name then
    (b.reconstruct.insert t).pushMarker.withoutFrameset
  else if voidInText.contains name then
    let placed := b.reconstruct.insertVoid t
    if name == "input" && isHidden t then placed else placed.withoutFrameset
  else if ["param", "source", "track"].contains name then b.insertVoid t
  else if name == "image" then
    (b.reconstruct.insertVoid { t with name := "img" }).withoutFrameset
  else if name == "textarea" then
    { b.withoutFrameset.insertRaw t .escapableText with dropLineFeed := true }
  else if name == "iframe" then b.withoutFrameset.insertRaw t .rawText
  else if name == "noembed" || name == "noscript" then b.insertRaw t .rawText
  else if name == "select" then b.openSelect t
  else if name == "optgroup" || name == "option" then
    (if b.currentNamed "option" then b.pop else b).reconstruct.insert t
  else if name == "rb" || name == "rtc" then
    (if b.hasInScope "ruby" then b.popAllImplied else b).insert t
  else if name == "rp" || name == "rt" then
    (if b.hasInScope "ruby" then b.popImplied "rtc" else b).insert t
  else if name == "math" then b.openForeign .mathMl t
  else if name == "svg" then b.openForeign .svg t
  else if misplacedStarts.contains name then b
  else b.reconstruct.insert t

/-- A start tag in a body. -/
def bodyStart (b : Builder) (t : Tag) : Step :=
  if t.name == "html" then b.extendRoot t
  else if ElementClass.headContent.contains t.name then b.headElement t
  else if t.name == "body" then .done (b.extendBody t)
  else if t.name == "frameset" then .done (b.replaceBody t)
  else .done ((b.openBlock? t).getD (b.openInText t))

/-- An end tag in a body. -/
def bodyEnd (b : Builder) (t : Tag) : Step :=
  let name := t.name
  if name == "template" then b.templateEnd
  else if name == "body" then if b.hasInScope "body" then b.goTo .afterBody else .done b
  else if name == "html" then if b.hasInScope "body" then b.retry .afterBody else .done b
  else .done <|
    if ElementClass.closableBlocks.contains name then
      if b.hasInScope name then b.closeNamed name else b
    else if name == "form" then b.closeForm
    else if name == "p" then (if b.hasParagraph then b else b.insertImplied "p").closeParagraph
    else if name == "li" then
      if b.hasInListItemScope name then (b.popImplied name).popThroughNamed name else b
    else if name == "dd" || name == "dt" then
      if b.hasInScope name then (b.popImplied name).popThroughNamed name else b
    else if ElementClass.headings.contains name then
      let isHeading (e : OpenElement) : Bool := e.isIn ElementClass.headings
      if inScope (OpenElement.bounds ElementClass.scope) isHeading b.stack then
        b.popAllImplied.popThrough isHeading
      else b
    else if name == "a" || name == "nobr" || ElementClass.formatting.contains name then
      b.adopt name
    else if ["applet", "marquee", "object"].contains name then
      if b.hasInScope name then (b.closeNamed name).clearFormatting else b
    else if name == "br" then b.lineBreak []
    else b.closeOther name

/-- In a body. -/
def inBody (b : Builder) : Input → Step
  | .null => .done b
  | .space t => .done (b.reconstruct.insertText t)
  | .text t => .done (b.reconstruct.withoutFrameset.insertText t)
  | .comment t => .done (b.insertComment t)
  | .opening t => b.bodyStart t
  | .closing t => b.bodyEnd t
  | .eof => b.endBody

/-- In the text of an element that holds only text. -/
def inText (b : Builder) : Input → Step
  | .space t | .text t => .done (b.insertText t)
  | .closing _ => b.pop.goTo b.returnMode
  | .eof => b.pop.retry b.returnMode
  | _ => .done b

/-- After the body. -/
def afterBody (b : Builder) : Input → Step
  | .space t => b.inBody (.space t)
  | .comment t =>
    .done (b.insertCommentIn ((b.stack.getLast?.map OpenElement.id).getD Forest.documentId) t)
  | .opening t => if t.name == "html" then b.extendRoot t else b.retry .inBody
  | .closing t => if t.name == "html" then b.goTo .afterAfterBody else b.retry .inBody
  | .eof => .done b
  | _ => b.retry .inBody

/-- After the end tag of the root. -/
def afterAfterBody (b : Builder) : Input → Step
  | .space t => b.inBody (.space t)
  | .comment t => .done (b.insertOuterComment t)
  | .opening t => if t.name == "html" then b.extendRoot t else b.retry .inBody
  | .eof => .done b
  | _ => b.retry .inBody

/-- In a frame set. -/
def inFrameset (b : Builder) : Input → Step
  | .space t => .done (b.insertText t)
  | .comment t => .done (b.insertComment t)
  | .opening t =>
    if t.name == "html" then b.extendRoot t
    else if t.name == "frameset" then .done (b.insert t)
    else if t.name == "frame" then .done (b.insertVoid t)
    else if t.name == "noframes" then b.headElement t
    else .done b
  | .closing t =>
    if t.name == "frameset" && 1 < b.stack.length then
      let b := b.pop
      if b.currentNamed "frameset" then .done b else b.goTo .afterFrameset
    else .done b
  | _ => .done b

/-- After a frame set. -/
def afterFrameset (b : Builder) : Input → Step
  | .space t => .done (b.insertText t)
  | .comment t => .done (b.insertComment t)
  | .opening t =>
    if t.name == "html" then b.extendRoot t
    else if t.name == "noframes" then b.headElement t
    else .done b
  | .closing t => if t.name == "html" then b.goTo .afterAfterFrameset else .done b
  | _ => .done b

/-- After a frame set and the end tag of the root. -/
def afterAfterFrameset (b : Builder) : Input → Step
  | .space t => b.inBody (.space t)
  | .comment t => .done (b.insertOuterComment t)
  | .opening t =>
    if t.name == "html" then b.extendRoot t
    else if t.name == "noframes" then b.headElement t
    else .done b
  | _ => .done b

end Builder

end Html

end MarkdownDialects
