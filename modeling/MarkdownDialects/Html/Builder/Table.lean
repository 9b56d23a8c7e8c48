import MarkdownDialects.Html.Builder.Body

/-!
# Building tables, selection lists and templates

The rules for elements that admit only certain children.  In a table, other content is put before
the table; in a selection list it is dropped.
-/

namespace MarkdownDialects

namespace Html

namespace Builder

/-- Tags around the rows and cells of a table. -/
def tableTags : List String :=
  ["caption", "col", "colgroup", "tbody", "td", "tfoot", "th", "thead", "tr"]

/-- The groups of rows of a table. -/
def rowGroups : List String := ["tbody", "tfoot", "thead"]

/-- Take misplaced content of a table by the rules for bodies, but put it before the table. -/
def misplaced (b : Builder) (i : Input) : Step :=
  ({ b with fostering := true }.inBody i).map ({ · with fostering := false })

/-- Text in a table, which is kept until all of it is seen. -/
def tableCharacters (b : Builder) (i : Input) : Step :=
  if b.currentIs (·.isIn ElementClass.tableParts) then
    { b with returnMode := b.mode, tableText := [] }.retry .inTableText
  else b.misplaced i

/-- In a table. -/
def inTable (b : Builder) (i : Input) : Step :=
  let cleared := b.popTo ElementClass.tableScope
  match i with
  | .null | .space _ | .text _ => b.tableCharacters i
  | .comment t => .done (b.insertComment t)
  | .opening t =>
    let name := t.name
    if name == "caption" then (cleared.pushMarker.insert t).goTo .inCaption
    else if name == "colgroup" then (cleared.insert t).goTo .inColumnGroup
    else if name == "col" then (cleared.insertImplied "colgroup").retry .inColumnGroup
    else if rowGroups.contains name then (cleared.insert t).goTo .inTableBody
    else if ["td", "th", "tr"].contains name then
      (cleared.insertImplied "tbody").retry .inTableBody
    else if name == "table" then
      if b.hasInTableScope "table" then .again (b.popThroughNamed "table").resetMode else .done b
    else if ["style", "script", "template"].contains name then b.headElement t
    else if name == "input" && isHidden t then .done (b.insertVoid t)
    else if name == "form" then
      .done <|
        if b.hasOpen "template" || b.form.isSome then b
        else
          let (b, e) := b.insertClosed .html t.name t.attributes
          { b with form := some e.id }
    else b.misplaced i
  | .closing t =>
    if t.name == "table" then
      .done (if b.hasInTableScope "table" then (b.popThroughNamed "table").resetMode else b)
    else if t.name == "template" then b.templateEnd
    else if t.name == "body" || t.name == "html" || tableTags.contains t.name then .done b
    else b.misplaced i
  | .eof => b.endBody

/-- Place the text kept in a table: white space stays in it, other text is misplaced. -/
def placeTableText (b : Builder) : Builder :=
  let pieces := b.tableText.reverse
  let b := { b with tableText := [] }
  let isBlank (t : Text) : Bool := t.all isSpace
  if pieces.all isBlank then pieces.foldl insertText b
  else
    pieces.foldl (fun b t =>
      match b.misplaced (if isBlank t then .space t else .text t) with
      | .done b | .again b => b) b

/-- In the text of a table. -/
def inTableText (b : Builder) : Input → Step
  | .null => .done b
  | .space t | .text t => .done { b with tableText := t :: b.tableText }
  | _ => b.placeTableText.retry b.returnMode

/-- In a caption. -/
def inCaption (b : Builder) (i : Input) : Step :=
  let closed := (b.closeNamed "caption").clearFormatting
  match i with
  | .opening t =>
    if tableTags.contains t.name then
      if b.hasInTableScope "caption" then closed.retry .inTable else .done b
    else b.inBody i
  | .closing t =>
    if t.name == "caption" then
      if b.hasInTableScope "caption" then closed.goTo .inTable else .done b
    else if t.name == "table" then
      if b.hasInTableScope "caption" then closed.retry .inTable else .done b
    else if t.name == "body" || t.name == "html" || tableTags.contains t.name then .done b
    else b.inBody i
  | i => b.inBody i

/-- In a group of columns. -/
def inColumnGroup (b : Builder) (i : Input) : Step :=
  let leave := if b.currentNamed "colgroup" then b.pop.retry .inTable else .done b
  match i with
  | .space t => .done (b.insertText t)
  | .comment t => .done (b.insertComment t)
  | .opening t =>
    if t.name == "html" then b.extendRoot t
    else if t.name == "col" then .done (b.insertVoid t)
    else if t.name == "template" then b.headElement t
    else leave
  | .closing t =>
    if t.name == "colgroup" then
      if b.currentNamed "colgroup" then b.pop.goTo .inTable else .done b
    else if t.name == "col" then .done b
    else if t.name == "template" then b.templateEnd
    else leave
  | .eof => b.endBody
  | _ => leave

/-- In a group of rows. -/
def inTableBody (b : Builder) (i : Input) : Step :=
  let cleared := b.popTo ElementClass.tableBodyContext
  let leave :=
    if b.anyInTableScope (·.isIn ["table", "tbody", "tfoot"]) then cleared.pop.retry .inTable
    else .done b
  match i with
  | .opening t =>
    if t.name == "tr" then (cleared.insert t).goTo .inRow
    else if t.name == "th" || t.name == "td" then (cleared.insertImplied "tr").retry .inRow
    else if tableTags.contains t.name then leave
    else b.inTable i
  | .closing t =>
    if rowGroups.contains t.name then
      if b.hasInTableScope t.name then cleared.pop.goTo .inTable else .done b
    else if t.name == "table" then leave
    else b.inTable i
  | i => b.inTable i

/-- In a row. -/
def inRow (b : Builder) (i : Input) : Step :=
  let cleared := b.popTo ElementClass.tableRowContext
  let leave := if b.hasInTableScope "tr" then cleared.pop.retry .inTableBody else .done b
  match i with
  | .opening t =>
    if t.name == "th" || t.name == "td" then (cleared.insert t).pushMarker.goTo .inCell
    else if tableTags.contains t.name then leave
    else b.inTable i
  | .closing t =>
    if t.name == "tr" then
      if b.hasInTableScope "tr" then cleared.pop.goTo .inTableBody else .done b
    else if t.name == "table" then leave
    else if rowGroups.contains t.name then
      if b.hasInTableScope t.name then leave else .done b
    else b.inTable i
  | i => b.inTable i

/-- Close the innermost cell. -/
def closeCell (b : Builder) : Builder :=
  (b.popAllImplied.popThrough (·.isIn ["td", "th"])).clearFormatting

/-- In a cell. -/
def inCell (b : Builder) (i : Input) : Step :=
  match i with
  | .opening t =>
    if tableTags.contains t.name then
      if b.anyInTableScope (·.isIn ["td", "th"]) then b.closeCell.retry .inRow else .done b
    else b.inBody i
  | .closing t =>
    if t.name == "td" || t.name == "th" then
      if b.hasInTableScope t.name then (b.closeNamed t.name).clearFormatting.goTo .inRow
      else .done b
    else if ["body", "caption", "col", "colgroup", "html"].contains t.name then .done b
    else if t.name == "table" || t.name == "tr" || rowGroups.contains t.name then
      if b.hasInTableScope t.name then b.closeCell.retry .inRow else .done b
    else b.inBody i
  | i => b.inBody i

/-- Close the innermost element if it is the named one. -/
def popIf (b : Builder) (name : String) : Builder := if b.currentNamed name then b.pop else b

/-- Close the innermost selection list. -/
def closeSelect (b : Builder) : Builder := (b.popThroughNamed "select").resetMode

/-- In a selection list. -/
def inSelect (b : Builder) (i : Input) : Step :=
  match i with
  | .space t | .text t => .done (b.insertText t)
  | .comment t => .done (b.insertComment t)
  | .opening t =>
    let name := t.name
    if name == "html" then b.extendRoot t
    else if name == "option" then .done ((b.popIf "option").insert t)
    else if name == "optgroup" then .done (((b.popIf "option").popIf "optgroup").insert t)
    else if name == "hr" then .done (((b.popIf "option").popIf "optgroup").insertVoid t)
    else if name == "select" then .done (if b.hasSelect then b.closeSelect else b)
    else if ["input", "keygen", "textarea"].contains name then
      if b.hasSelect then .again b.closeSelect else .done b
    else if name == "script" || name == "template" then b.headElement t
    else .done b
  | .closing t =>
    if t.name == "optgroup" then
      let inGroup := (b.stack.drop 1).head?.any (·.isNamed "optgroup")
      .done <| (if b.currentNamed "option" && inGroup then b.pop else b).popIf "optgroup"
    else if t.name == "option" then .done (b.popIf "option")
    else if t.name == "select" then .done (if b.hasSelect then b.closeSelect else b)
    else if t.name == "template" then b.templateEnd
    else .done b
  | .eof => b.endBody
  | .null => .done b

/-- In a selection list inside a table. -/
def inSelectInTable (b : Builder) (i : Input) : Step :=
  let tags := ["caption", "table", "tbody", "tfoot", "thead", "tr", "td", "th"]
  match i with
  | .opening t => if tags.contains t.name then .again b.closeSelect else b.inSelect i
  | .closing t =>
    if tags.contains t.name then
      if b.hasInTableScope t.name then .again b.closeSelect else .done b
    else b.inSelect i
  | i => b.inSelect i

/-- Take the input again with another mode for the rest of the template. -/
def retryInTemplate (b : Builder) (mode : Mode) : Step :=
  { b with templateModes := mode :: b.templateModes.drop 1 }.retry mode

/-- In a template. -/
def inTemplate (b : Builder) (i : Input) : Step :=
  match i with
  | .space _ | .text _ | .comment _ => b.inBody i
  | .opening t =>
    let name := t.name
    if ElementClass.headContent.contains name then b.headElement t
    else if name == "caption" || name == "colgroup" || rowGroups.contains name then
      b.retryInTemplate .inTable
    else if name == "col" then b.retryInTemplate .inColumnGroup
    else if name == "tr" then b.retryInTemplate .inTableBody
    else if name == "td" || name == "th" then b.retryInTemplate .inRow
    else b.retryInTemplate .inBody
  | .closing t => if t.name == "template" then b.templateEnd else .done b
  | .eof => b.endTemplates
  | .null => .done b

/-- The rules of the current mode. -/
def inMode (b : Builder) (i : Input) : Step :=
  match b.mode with
  | .initial => b.initial i
  | .beforeHtml => b.beforeHtml i
  | .beforeHead => b.beforeHead i
  | .inHead => b.inHead i
  | .afterHead => b.afterHead i
  | .inBody => b.inBody i
  | .text => b.inText i
  | .inTable => b.inTable i
  | .inTableText => b.inTableText i
  | .inCaption => b.inCaption i
  | .inColumnGroup => b.inColumnGroup i
  | .inTableBody => b.inTableBody i
  | .inRow => b.inRow i
  | .inCell => b.inCell i
  | .inSelect => b.inSelect i
  | .inSelectInTable => b.inSelectInTable i
  | .inTemplate => b.inTemplate i
  | .afterBody => b.afterBody i
  | .inFrameset => b.inFrameset i
  | .afterFrameset => b.afterFrameset i
  | .afterAfterBody => b.afterAfterBody i
  | .afterAfterFrameset => b.afterAfterFrameset i

end Builder

end Html

end MarkdownDialects
