import MarkdownDialects.Html.Builder.Step

/-!
# Building the start of a document

The rules up to the document's body: the root and the head come into being even where their tags
are left out.
-/

namespace MarkdownDialects

namespace Html

namespace Builder

/-- End tags that make what was left out come into being. -/
def forcingEnds : List String := ["head", "body", "html", "br"]

/-- Before the root. -/
def beforeHtml (b : Builder) (i : Input) : Step :=
  let implied := (b.createRoot []).retry .beforeHead
  match i with
  | .space _ => .done b
  | .comment t => .done (b.insertOuterComment t)
  | .opening t => if t.name == "html" then (b.createRoot t.attributes).goTo .beforeHead else implied
  | .closing t => if forcingEnds.contains t.name then implied else .done b
  | _ => implied

/-- Before the first token that is not white space. -/
def initial (b : Builder) : Input → Step
  | .space _ => .done b
  | .comment t => .done (b.insertOuterComment t)
  | _ => { b with legacy := true }.retry .beforeHtml

/-- Before the head. -/
def beforeHead (b : Builder) (i : Input) : Step :=
  let implied := (b.openHead []).retry .inHead
  match i with
  | .space _ => .done b
  | .comment t => .done (b.insertComment t)
  | .opening t =>
    if t.name == "html" then b.extendRoot t
    else if t.name == "head" then (b.openHead t.attributes).goTo .inHead
    else implied
  | .closing t => if forcingEnds.contains t.name then implied else .done b
  | _ => implied

/-- An element of the head. -/
def headElement (b : Builder) (t : Tag) : Step :=
  .done <|
    if t.name == "title" then b.insertRaw t .escapableText
    else if ["noframes", "style", "noscript"].contains t.name then b.insertRaw t .rawText
    else if t.name == "script" then b.insertRaw t .script
    else if t.name == "template" then b.openTemplate t
    else b.insertVoid t

/-- The end tag of a template, which also closes the parts of tables that are open in it. -/
def templateEnd (b : Builder) : Step :=
  if b.hasOpen "template" then
    .done { b with
      stack := b.stack.dropWhile (·.isIn ElementClass.impliedEndThorough) }.closeTemplate
  else .done b

/-- In the head. -/
def inHead (b : Builder) (i : Input) : Step :=
  let leave := b.pop.retry .afterHead
  match i with
  | .space t => .done (b.insertText t)
  | .comment t => .done (b.insertComment t)
  | .opening t =>
    if t.name == "html" then b.extendRoot t
    else if t.name == "noscript" || ElementClass.headContent.contains t.name then b.headElement t
    else if t.name == "head" then .done b
    else leave
  | .closing t =>
    if t.name == "head" then b.pop.goTo .afterHead
    else if t.name == "template" then b.templateEnd
    else if forcingEnds.contains t.name then leave
    else .done b
  | _ => leave

/-- After the head. -/
def afterHead (b : Builder) (i : Input) : Step :=
  let implied := (b.insertImplied "body").retry .inBody
  match i with
  | .space t => .done (b.insertText t)
  | .comment t => .done (b.insertComment t)
  | .opening t =>
    if t.name == "html" then b.extendRoot t
    else if t.name == "body" then (b.insert t).withoutFrameset.goTo .inBody
    else if t.name == "frameset" then (b.insert t).goTo .inFrameset
    else if ElementClass.headContent.contains t.name then
      match b.head with
      | some head =>
        ({ b with stack := head :: b.stack }.headElement t).map (·.removeOpen head.id)
      | none => .done b
    else if t.name == "head" then .done b
    else implied
  | .closing t =>
    if t.name == "template" then b.templateEnd
    else if forcingEnds.contains t.name && t.name != "head" then implied
    else .done b
  | _ => implied

end Builder

end Html

end MarkdownDialects
