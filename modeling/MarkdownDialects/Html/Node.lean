import MarkdownDialects.Text.Basic

/-!
# HTML documents as trees
-/

namespace MarkdownDialects

namespace Html

/-- An attribute of an element. -/
structure Attribute where
  name : String
  value : Text
deriving DecidableEq

/-- A node of a document. -/
inductive Node where
  | element (name : String) (attributes : List Attribute) (children : List Node)
  | text (t : Text)
  | comment (t : Text)

namespace Node

/-- The name of an element. -/
def name? : Node → Option String
  | .element name _ _ => some name
  | _ => none

/-- The children of a node. -/
def children : Node → List Node
  | .element _ _ children => children
  | _ => []

/-- The attributes of a node. -/
def attributes : Node → List Attribute
  | .element _ attributes _ => attributes
  | _ => []

/-- Whether the node is an element. -/
def isElement : Node → Bool
  | .element _ _ _ => true
  | _ => false

/-- Whether the node is an element of the given name. -/
def isNamed (name : String) (n : Node) : Bool := n.name? == some name

mutual

/-- The text inside a node; comments do not count. -/
def textContent : Node → Text
  | .element _ _ children => textContents children
  | .text t => t
  | .comment _ => []

/-- The text inside some nodes. -/
def textContents : List Node → Text
  | [] => []
  | n :: rest => textContent n ++ textContents rest

end

end Node

end Html

end MarkdownDialects
