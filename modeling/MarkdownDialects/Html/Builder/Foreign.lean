import MarkdownDialects.Html.Builder.Table

/-!
# Building drawings and formulas

The rules for content that is not HTML.  Some of its elements hold HTML again, and some start tags
of HTML end it.
-/

namespace MarkdownDialects

namespace Html

namespace Builder

/-- Whether an annotation of a formula says that it holds HTML. -/
def annotatesHtml (b : Builder) (e : OpenElement) : Bool :=
  (b.forest.attributes e.id).any fun a =>
    a.name == "encoding" &&
      (Text.eqIgnoreAsciiCase a.value "text/html".toList ||
        Text.eqIgnoreAsciiCase a.value "application/xhtml+xml".toList)

/-- Whether an input that comes inside the given element is taken by the rules for foreign
content. -/
def isForeignIn (b : Builder) (e : OpenElement) (i : Input) : Bool :=
  let isText : Bool := match i with
    | .space _ | .text _ | .null => true
    | _ => false
  let tag? : Option Tag := match i with
    | .opening t => some t
    | _ => none
  let inMathText := e.holdsMathText &&
    (isText || tag?.any fun t => t.name != "mglyph" && t.name != "malignmark")
  let inHtml := e.holdsHtml && (isText || tag?.isSome)
  let inAnnotation := e.space = .mathMl && e.name == "annotation-xml" &&
    (tag?.any (·.name == "svg") || (isText || tag?.isSome) && b.annotatesHtml e)
  !(inMathText || inHtml || inAnnotation)

/-- Whether the next input is taken by the rules for foreign content. -/
def isForeign (b : Builder) (i : Input) : Bool :=
  match i, b.stack with
  | .eof, _ | _, [] => false
  | i, e :: _ => e.space != .html && b.isForeignIn e i

/-- Leave foreign content, and take the input by the rules of the current mode. -/
def leaveForeign (b : Builder) (i : Input) : Step :=
  let outside (e : OpenElement) : Bool := e.space == .html || e.holdsMathText || e.holdsHtml
  { b with stack := b.stack.dropWhile fun e => !outside e }.inMode i

/-- A start tag of an element of a drawing or a formula. -/
def foreignStart (b : Builder) (t : Tag) : Builder :=
  let space : Namespace := (b.stack.head?.map OpenElement.space).getD .html
  let name := if space = .svg then ElementClass.respell ElementClass.svgNames t.name else t.name
  let attributes := ElementClass.foreignAttributes space t.attributes
  if t.selfClosing then (b.insertClosed space name attributes).1
  else (b.insertOpen space name attributes).1

/-- An end tag in foreign content, given the elements not yet looked at. -/
def foreignEnd (b : Builder) (t : Tag) (isFirst : Bool) : List OpenElement → Step
  | [] | [_] => .done b
  | e :: outer =>
    if !isFirst && e.space = .html then b.inMode (.closing t)
    else if Text.eqIgnoreAsciiCase e.name.toList t.name.toList then .done { b with stack := outer }
    else foreignEnd b t false outer

/-- Whether a start tag ends foreign content. -/
def breaksForeign (t : Tag) : Bool :=
  ElementClass.breaksForeign.contains t.name ||
    t.name == "font" && t.attributes.any fun a => ["color", "face", "size"].contains a.name

/-- In foreign content. -/
def inForeign (b : Builder) (i : Input) : Step :=
  match i with
  | .null => .done (b.insertText ['\ufffd'])
  | .space t => .done (b.insertText t)
  | .text t => .done (b.withoutFrameset.insertText t)
  | .comment t => .done (b.insertComment t)
  | .opening t => if breaksForeign t then b.leaveForeign i else .done (b.foreignStart t)
  | .closing t =>
    if t.name == "br" || t.name == "p" then b.leaveForeign i else b.foreignEnd t true b.stack
  | .eof => .done b

/-- Take an input again and again until it is dealt with.  Every time but a few, an open element is
closed, so that a bound on the rounds can be given. -/
def takeIn (i : Input) : Nat → Builder → Builder
  | 0, b => b
  | fuel + 1, b =>
    match if b.isForeign i then b.inForeign i else b.inMode i with
    | .done b => b
    | .again b => takeIn i fuel b

/-- Take an input. -/
def take (b : Builder) (i : Input) : Builder := takeIn i (64 + 8 * b.stack.length) b

end Builder

end Html

end MarkdownDialects
