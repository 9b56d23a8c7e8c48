import MarkdownDialects.Html.Builder.Basic

/-!
# Placing nodes

Where new nodes go, and how the stack of open elements and the list of formatting elements change.
-/

namespace MarkdownDialects

namespace Html

namespace OpenElement

/-- Whether the element is an HTML element of the given name. -/
def isNamed (e : OpenElement) (name : String) : Bool := e.space = .html && e.name == name

/-- Whether the element is an HTML element with one of the given names. -/
def isIn (e : OpenElement) (names : List String) : Bool := e.space = .html && names.contains e.name

/-- Whether the element is one of a formula that holds text. -/
def holdsMathText (e : OpenElement) : Bool :=
  e.space = .mathMl && ElementClass.mathText.contains e.name

/-- Whether the element is one of a drawing that holds HTML. -/
def holdsHtml (e : OpenElement) : Bool :=
  e.space = .svg && ElementClass.svgContent.contains e.name

/-- Whether the element bounds a scope that the given names, and elements that hold HTML, bound. -/
def bounds (names : List String) (e : OpenElement) : Bool :=
  e.isIn names || e.holdsMathText || e.holdsHtml

end OpenElement

namespace Builder

/-- The innermost open element satisfies a condition. -/
def currentIs (b : Builder) (p : OpenElement → Bool) : Bool := b.stack.head?.any p

/-- The innermost open element is the HTML element of the given name. -/
def currentNamed (b : Builder) (name : String) : Bool := b.currentIs (·.isNamed name)

/-- Some open element is the HTML element of the given name. -/
def hasOpen (b : Builder) (name : String) : Bool := b.stack.any (·.isNamed name)

/-- Whether an open element that satisfies `p` comes before one that bounds the scope. -/
def inScope (bound p : OpenElement → Bool) : List OpenElement → Bool
  | [] => false
  | e :: rest => if p e then true else if bound e then false else inScope bound p rest

/-- Whether an HTML element of the given name is in scope. -/
def hasInScope (b : Builder) (name : String) : Bool :=
  inScope (OpenElement.bounds ElementClass.scope) (·.isNamed name) b.stack

/-- Whether an HTML element of the given name is in the scope of list items. -/
def hasInListItemScope (b : Builder) (name : String) : Bool :=
  inScope (OpenElement.bounds ElementClass.listItemScope) (·.isNamed name) b.stack

/-- Whether a paragraph is in the scope of buttons. -/
def hasParagraph (b : Builder) : Bool :=
  inScope (OpenElement.bounds ElementClass.buttonScope) (·.isNamed "p") b.stack

/-- Whether an element that satisfies `p` is in the scope of tables. -/
def anyInTableScope (b : Builder) (p : OpenElement → Bool) : Bool :=
  inScope (·.isIn ElementClass.tableScope) p b.stack

/-- Whether an HTML element of the given name is in the scope of tables. -/
def hasInTableScope (b : Builder) (name : String) : Bool := b.anyInTableScope (·.isNamed name)

/-- Whether a selection list is in its scope. -/
def hasSelect (b : Builder) : Bool :=
  inScope (fun e => !e.isIn ["optgroup", "option"]) (·.isNamed "select") b.stack

/-- Close the innermost open element. -/
def pop (b : Builder) : Builder := { b with stack := b.stack.drop 1 }

/-- Close elements up to the first one that satisfies `p`, and this one too. -/
def popThrough (b : Builder) (p : OpenElement → Bool) : Builder :=
  { b with stack := (b.stack.dropWhile fun e => !p e).drop 1 }

/-- Close elements up to the HTML element of the given name, and this one too. -/
def popThroughNamed (b : Builder) (name : String) : Builder := b.popThrough (·.isNamed name)

/-- Close elements up to the first one with one of the given names, which stays open. -/
def popTo (b : Builder) (names : List String) : Builder :=
  { b with stack := b.stack.dropWhile fun e => !e.isIn names }

/-- Close elements whose end tag may be left out, other than those with the given name. -/
def popImplied (b : Builder) (except : String) : Builder :=
  { b with stack := b.stack.dropWhile fun e => e.isIn ElementClass.impliedEnd && e.name != except }

/-- Close all elements whose end tag may be left out. -/
def popAllImplied (b : Builder) : Builder := b.popImplied ""

/-- Take an element out of the stack. -/
def removeOpen (b : Builder) (id : NodeId) : Builder :=
  { b with stack := b.stack.filter (·.id != id) }

/-- The node that holds what is put inside an element: for a template this is its content. -/
def holder (b : Builder) (e : OpenElement) : NodeId :=
  if e.isNamed "template" then (b.templates.lookup e.id).getD e.id else e.id

/-- A place for a new node. -/
inductive Place where
  | lastChild (parent : NodeId)
  | before (sibling : NodeId)

/-- The place for misplaced content of a table: before the innermost table. -/
def fosterPlace (b : Builder) : List OpenElement → Place
  | [] => .lastChild Forest.documentId
  | [e] => .lastChild e.id
  | e :: outer :: rest =>
    if e.isNamed "template" then .lastChild (b.holder e)
    else if e.isNamed "table" then
      if (b.forest.parent? e.id).isSome then .before e.id else .lastChild outer.id
    else fosterPlace b (outer :: rest)

/-- The place for a node that goes into `target`. -/
def placeIn (b : Builder) (target : OpenElement) : Place :=
  if b.fostering && target.isIn ElementClass.tableParts then b.fosterPlace b.stack
  else .lastChild (b.holder target)

/-- The place for a node that goes into the innermost open element. -/
def place (b : Builder) : Place :=
  match b.stack with
  | e :: _ => b.placeIn e
  | [] => .lastChild Forest.documentId

/-- Put a node at a place. -/
def putNode (b : Builder) (place : Place) (id : NodeId) : Builder :=
  match place with
  | .lastChild parent => { b with forest := b.forest.append parent id }
  | .before sibling => { b with forest := b.forest.insertBefore sibling id }

/-- Put text into the innermost open element. -/
def insertText (b : Builder) (t : Text) : Builder :=
  match b.place with
  | .lastChild parent => { b with forest := b.forest.appendText parent t }
  | .before sibling => { b with forest := b.forest.insertTextBefore sibling t }

/-- Put a comment under a given node. -/
def insertCommentIn (b : Builder) (parent : NodeId) (t : Text) : Builder :=
  let (forest, id) := b.forest.add (.comment t)
  { b with forest := forest.append parent id }

/-- Put a comment into the innermost open element. -/
def insertComment (b : Builder) (t : Text) : Builder :=
  let (forest, id) := b.forest.add (.comment t)
  { b with forest }.putNode b.place id

/-- Make an element that has no place yet. -/
def create (b : Builder) (space : Namespace) (name : String) (attributes : List Attribute) :
    Builder × OpenElement :=
  let (forest, id) := b.forest.add (.element space name attributes)
  let e : OpenElement := ⟨id, space, name⟩
  if e.isNamed "template" then
    let (forest, content) := forest.add .fragment
    ({ b with forest, templates := (id, content) :: b.templates }, e)
  else ({ b with forest }, e)

/-- Make an element at the current place, without opening it. -/
def insertClosed (b : Builder) (space : Namespace) (name : String) (attributes : List Attribute) :
    Builder × OpenElement :=
  let place := b.place
  let (b, e) := b.create space name attributes
  (b.putNode place e.id, e)

/-- Make an element at the current place and open it. -/
def insertOpen (b : Builder) (space : Namespace) (name : String) (attributes : List Attribute) :
    Builder × OpenElement :=
  let (b, e) := b.insertClosed space name attributes
  ({ b with stack := e :: b.stack }, e)

/-- Open the element of a tag. -/
def insert (b : Builder) (t : Tag) : Builder := (b.insertOpen .html t.name t.attributes).1

/-- Make the element of a tag that has no content. -/
def insertVoid (b : Builder) (t : Tag) : Builder := (b.insertClosed .html t.name t.attributes).1

/-- Open an element whose tag was left out. -/
def insertImplied (b : Builder) (name : String) : Builder := (b.insertOpen .html name []).1

/-- Open an element whose content is text, to be read in the given way. -/
def insertRaw (b : Builder) (t : Tag) (content : ContentMode) : Builder :=
  { b.insert t with returnMode := b.mode, mode := .text, content }

/-- Add the attributes that the document's root does not have yet. -/
def addRootAttributes (b : Builder) (attributes : List Attribute) : Builder :=
  match b.stack.getLast? with
  | some root => { b with forest := b.forest.addAttributes root.id attributes }
  | none => b

/-- Close the innermost paragraph. -/
def closeParagraph (b : Builder) : Builder := (b.popImplied "p").popThroughNamed "p"

/-- Close the paragraph that a block interrupts, if there is one. -/
def interruptParagraph (b : Builder) : Builder := if b.hasParagraph then b.closeParagraph else b

/-- The mode that fits the open elements. -/
def modeFor (b : Builder) : List OpenElement → Mode
  | [] => .inBody
  | e :: outer =>
    let last := outer.isEmpty
    if e.space != .html then modeFor b outer
    else if e.name == "select" then
      match outer.find? fun e => e.isIn ["template", "table"] with
      | some e => if e.name == "table" then .inSelectInTable else .inSelect
      | none => .inSelect
    else if (e.name == "td" || e.name == "th") && !last then .inCell
    else if e.name == "tr" then .inRow
    else if e.name == "tbody" || e.name == "thead" || e.name == "tfoot" then .inTableBody
    else if e.name == "caption" then .inCaption
    else if e.name == "colgroup" then .inColumnGroup
    else if e.name == "table" then .inTable
    else if e.name == "template" then b.templateModes.head?.getD .inBody
    else if e.name == "head" && !last then .inHead
    else if e.name == "body" then .inBody
    else if e.name == "frameset" then .inFrameset
    else if e.name == "html" then if b.head.isNone then .beforeHead else .afterHead
    else modeFor b outer

/-- Go to the mode that fits the open elements. -/
def resetMode (b : Builder) : Builder := { b with mode := b.modeFor b.stack }

/-- The formatting entries since the last marker, newest first. -/
def recentFormatting (b : Builder) : List (OpenElement × Tag) :=
  let rec go : List FormattingEntry → List (OpenElement × Tag)
    | .element e tag :: rest => (e, tag) :: go rest
    | _ => []
  go b.formatting

/-- Whether an entry is about the given element. -/
def FormattingEntry.isOf (id : NodeId) : FormattingEntry → Bool
  | .element e _ => e.id == id
  | .marker => false

/-- The tag of a formatting element in the list. -/
def formattingTag? (b : Builder) (id : NodeId) : Option Tag :=
  b.formatting.findSome? fun
    | .element e tag => if e.id = id then some tag else none
    | .marker => none

/-- Take an element out of the list of formatting elements. -/
def removeFormatting (b : Builder) (id : NodeId) : Builder :=
  { b with formatting := b.formatting.filter fun entry => !FormattingEntry.isOf id entry }

/-- Set a marker in the list of formatting elements. -/
def pushMarker (b : Builder) : Builder := { b with formatting := .marker :: b.formatting }

/-- Forget the formatting elements since the last marker, and the marker. -/
def clearFormatting (b : Builder) : Builder :=
  let rec go : List FormattingEntry → List FormattingEntry
    | .element _ _ :: rest => go rest
    | .marker :: rest => rest
    | [] => []
  { b with formatting := go b.formatting }

/-- Open again the elements of some formatting entries, newest first, that are not open. -/
def reopen (b : Builder) : List FormattingEntry → Builder × List FormattingEntry
  | .element e tag :: rest =>
    if b.stack.any (·.id == e.id) then (b, .element e tag :: rest)
    else
      let (b, rest) := reopen b rest
      let (b, e) := b.insertOpen .html tag.name tag.attributes
      (b, .element e tag :: rest)
  | rest => (b, rest)

/-- Open again the formatting elements that were closed by mistake. -/
def reconstruct (b : Builder) : Builder :=
  let (b, formatting) := b.reopen b.formatting
  { b with formatting }

/-- Whether two tags say the same, whatever the order of their attributes. -/
def sameTag (s t : Tag) : Bool :=
  s.name == t.name && s.attributes.length == t.attributes.length &&
    s.attributes.all fun a => t.attributes.any (· == a)

/-- Open a formatting element.  Of four equal ones since the last marker the oldest is dropped. -/
def insertFormatting (b : Builder) (t : Tag) : Builder :=
  let same := b.recentFormatting.filter fun (_, old) => sameTag t old
  let b := if 3 ≤ same.length then
    match same.getLast? with
    | some (e, _) => b.removeFormatting e.id
    | none => b
  else b
  let (b, e) := b.insertOpen .html t.name t.attributes
  { b with formatting := .element e t :: b.formatting }

end Builder

end Html

end MarkdownDialects
