import MarkdownDialects.Html.Builder.Adoption

/-!
# Steps of building a document

What a token brings to the rules for building a document, and what a rule answers.
-/

namespace MarkdownDialects

namespace Html

/-- What is to be placed next.  Runs of text are either white space or have none. -/
inductive Input where
  | space (t : Text)
  | text (t : Text)
  | null
  | comment (t : Text)
  | opening (t : Tag)
  | closing (t : Tag)
  | eof

/-- The answer of a rule: the input is dealt with, or it is to be taken again in the new mode. -/
inductive Step where
  | done (b : Builder)
  | again (b : Builder)

namespace Step

/-- Change the document of an answer. -/
def map (f : Builder → Builder) : Step → Step
  | .done b => .done (f b)
  | .again b => .again (f b)

end Step

namespace Builder

/-- White space that the rules for building a document tell from other text. -/
def isSpace (c : Char) : Bool :=
  c == '\t' || c == '\n' || c == '\x0c' || c == '\r' || c == ' '

/-- Take the input again in another mode. -/
def retry (b : Builder) (mode : Mode) : Step := .again { b with mode }

/-- Go on in another mode. -/
def goTo (b : Builder) (mode : Mode) : Step := .done { b with mode }

/-- A document in which a frame set is no longer welcome. -/
def withoutFrameset (b : Builder) : Builder := { b with framesetOk := false }

/-- Whether an input element is hidden. -/
def isHidden (t : Tag) : Bool :=
  (t.attribute? "type").any fun value => Text.eqIgnoreAsciiCase value "hidden".toList

/-- Close elements up to the named one, those first whose end tag may be left out. -/
def closeNamed (b : Builder) (name : String) : Builder := b.popAllImplied.popThroughNamed name

/-- Put a comment under the document itself. -/
def insertOuterComment (b : Builder) (t : Text) : Builder :=
  b.insertCommentIn Forest.documentId t

/-- Open the document's root. -/
def createRoot (b : Builder) (attributes : List Attribute) : Builder :=
  let (b, root) := b.create .html "html" attributes
  { b with forest := b.forest.append Forest.documentId root.id, stack := [root] }

/-- Open the head of the document. -/
def openHead (b : Builder) (attributes : List Attribute) : Builder :=
  let (b, head) := b.insertOpen .html "head" attributes
  { b with head }

/-- Open a template. -/
def openTemplate (b : Builder) (t : Tag) : Builder :=
  let b := b.pushMarker.withoutFrameset
  { b with mode := .inTemplate, templateModes := .inTemplate :: b.templateModes }.insert t

/-- Close the innermost template. -/
def closeTemplate (b : Builder) : Builder :=
  let b := (b.popThroughNamed "template").clearFormatting
  { b with templateModes := b.templateModes.drop 1 }.resetMode

/-- The end of the text while templates may be open. -/
def endTemplates (b : Builder) : Step :=
  if b.hasOpen "template" then .again b.closeTemplate else .done b

/-- The end of the text in a body. -/
def endBody (b : Builder) : Step := if b.templateModes.isEmpty then .done b else b.endTemplates

/-- A further tag of the document's root gives it more attributes. -/
def extendRoot (b : Builder) (t : Tag) : Step :=
  .done (if b.hasOpen "template" then b else b.addRootAttributes t.attributes)

end Builder

end Html

end MarkdownDialects
