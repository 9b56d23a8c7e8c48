import MarkdownDialects.Html.Node

/-!
# HTML tokens
-/

namespace MarkdownDialects

namespace Html

/-- A tag as it is written. -/
structure Tag where
  name : String
  attributes : List Attribute
  selfClosing : Bool
deriving DecidableEq

/-- The value of an attribute of a tag. -/
def Tag.attribute? (t : Tag) (name : String) : Option Text :=
  (t.attributes.find? (·.name == name)).map Attribute.value

/-- A document type declaration. -/
structure Doctype where
  name : Text
  publicId : Option Text
  systemId : Option Text
  /-- Whether the declaration broke off or broke its form. -/
  malformed : Bool

/-- A token of HTML. -/
inductive Token where
  | characters (t : Text)
  /-- The characters of a character reference; `closed` tells whether a semicolon ends it. -/
  | reference (t : Text) (closed : Bool)
  | null
  | comment (t : Text)
  | startTag (t : Tag)
  | endTag (t : Tag)
  | doctype (d : Doctype)
  | eof

/-- How the text ahead is to be read. -/
inductive ContentMode where
  | data
  /-- Text with character references, up to the end tag of the element. -/
  | escapableText
  /-- Text without character references, up to the end tag of the element. -/
  | rawText
  | script
  /-- Text up to the end of the document. -/
  | plainText
deriving DecidableEq

end Html

end MarkdownDialects
