import MarkdownDialects.Html.Node
import MarkdownDialects.Serialize.Options

/-!
# Elements and rules for them

A rule says how some elements are written, given what their content was written as.  Rules come
before everything the serializer does on its own.
-/

namespace MarkdownDialects

open Html (Attribute)

/-- The tag of an element and its attributes. -/
structure Element where
  tag : String
  attributes : List Attribute
deriving DecidableEq

namespace Element

/-- The value of the first attribute with the given name. -/
def attribute? (e : Element) (name : String) : Option Text :=
  (e.attributes.find? (·.name == name)).map Attribute.value

/-- Whether the element has an attribute with the given name. -/
def has (e : Element) (name : String) : Bool := (e.attribute? name).isSome

end Element

/-- A rule for some elements. -/
structure ElementRule where
  name : String
  applies : Element → Bool
  /-- The Markdown for an element, given the Markdown of its content. -/
  write : Element → Text → SerializeOptions → Text

namespace ElementRule

/-- The rule for elements with the given tag, and an attribute if one is asked for, that puts fixed
texts around the content; the value of an attribute can stand before the text at the end. -/
def affix (name tag : String) (required : Option String) (before after : Text)
    (shown : Option String) : ElementRule where
  name
  applies e := e.tag == tag && required.all e.has
  write e content _ := before ++ content ++ ((shown.bind e.attribute?).getD []) ++ after

/-- Spoilers are written between pairs of bars. -/
def spoiler : ElementRule :=
  affix "spoiler" "span" (some "data-spoiler") ['|', '|'] ['|', '|'] none

/-- The rules a serializer starts with. -/
def defaults : List ElementRule := [spoiler]

end ElementRule

end MarkdownDialects
