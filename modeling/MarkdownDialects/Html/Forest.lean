import MarkdownDialects.Html.Node

/-!
# Trees under construction

While a document is read, nodes are moved between parents, so they are kept in one table under
numbers, each with the number of its parent and those of its children in order.
-/

namespace MarkdownDialects

namespace Html

/-- The number of a node. -/
abbrev NodeId := Nat

/-- The vocabularies an element can belong to. -/
inductive Namespace where
  | html
  | svg
  | mathMl
deriving DecidableEq

/-- What a node holds besides its children. -/
inductive Shape where
  | document
  /-- The content of a template, which is no part of the document. -/
  | fragment
  | element (space : Namespace) (name : String) (attributes : List Attribute)
  | text (t : Text)
  | comment (t : Text)

/-- A node in the table. -/
structure Entry where
  shape : Shape
  parent : Option NodeId
  children : List NodeId

/-- A table of nodes. -/
structure Forest where
  entries : Array Entry

namespace Forest

/-- The number of the document. -/
def documentId : NodeId := 0

/-- The table that holds only an empty document. -/
def start : Forest := ⟨#[⟨.document, none, []⟩]⟩

/-- Change a node. -/
def modify (f : Forest) (id : NodeId) (g : Entry → Entry) : Forest :=
  ⟨f.entries.modify id g⟩

/-- Add a node that has no parent yet. -/
def add (f : Forest) (shape : Shape) : Forest × NodeId :=
  (⟨f.entries.push ⟨shape, none, []⟩⟩, f.entries.size)

/-- The children of a node. -/
def children (f : Forest) (id : NodeId) : List NodeId :=
  (f.entries[id]?.map Entry.children).getD []

/-- The parent of a node. -/
def parent? (f : Forest) (id : NodeId) : Option NodeId := f.entries[id]?.bind Entry.parent

/-- The attributes of an element. -/
def attributes (f : Forest) (id : NodeId) : List Attribute :=
  match f.entries[id]? with
  | some ⟨.element _ _ attributes, _, _⟩ => attributes
  | _ => []

/-- Give an element the attributes that it does not have yet. -/
def addAttributes (f : Forest) (id : NodeId) (more : List Attribute) : Forest :=
  f.modify id fun e =>
    match e.shape with
    | .element space name attributes =>
      let missing := more.filter fun a => !attributes.any (·.name == a.name)
      { e with shape := .element space name (attributes ++ missing) }
    | _ => e

/-- Take a node out of its parent. -/
def detach (f : Forest) (id : NodeId) : Forest :=
  match f.parent? id with
  | some parent =>
    (f.modify parent fun e => { e with children := e.children.filter (· != id) }).modify id
      fun e => { e with parent := none }
  | none => f

/-- Put a node under a parent, after its other children. -/
def append (f : Forest) (parent id : NodeId) : Forest :=
  ((f.detach id).modify parent fun e => { e with children := e.children ++ [id] }).modify id
    fun e => { e with parent := some parent }

/-- Put a node before one of its future siblings. -/
def insertBefore (f : Forest) (sibling id : NodeId) : Forest :=
  let f := f.detach id
  match f.parent? sibling with
  | some parent =>
    (f.modify parent fun e =>
      { e with
        children := e.children.flatMap fun c => if c = sibling then [id, c] else [c] }).modify
        id fun e => { e with parent := some parent }
  | none => f

/-- Add text to a node, if it is a text. -/
def extendText? (f : Forest) (id : NodeId) (t : Text) : Option Forest :=
  match f.entries[id]? with
  | some ⟨.text front, _, _⟩ => some (f.modify id fun e => { e with shape := .text (front ++ t) })
  | _ => none

/-- Put text under a parent, after its other children; it joins a text that is there. -/
def appendText (f : Forest) (parent : NodeId) (t : Text) : Forest :=
  match (f.children parent).getLast?.bind fun last => f.extendText? last t with
  | some f => f
  | none =>
    let (f, id) := f.add (.text t)
    f.append parent id

/-- Put text before a sibling; it joins a text that is there. -/
def insertTextBefore (f : Forest) (sibling : NodeId) (t : Text) : Forest :=
  let siblings := ((f.parent? sibling).map f.children).getD []
  let before := (siblings.takeWhile (· != sibling)).getLast?
  match before.bind fun previous => f.extendText? previous t with
  | some f => f
  | none =>
    let (f, id) := f.add (.text t)
    f.insertBefore sibling id

/-- Move all children of a node under another parent. -/
def moveChildren (f : Forest) (source target : NodeId) : Forest :=
  (f.children source).foldl (fun f id => f.append target id) f

/-- The tree below a node.  A tree is no deeper than the table is long. -/
def tree (f : Forest) : Nat → NodeId → List Node
  | 0, _ => []
  | fuel + 1, id =>
    match f.entries[id]? with
    | some ⟨.element _ name attributes, _, children⟩ =>
      [.element name attributes (children.flatMap (tree f fuel))]
    | some ⟨.text t, _, _⟩ => [.text t]
    | some ⟨.comment t, _, _⟩ => [.comment t]
    | _ => []

/-- The nodes of the document. -/
def document (f : Forest) : List Node :=
  (f.children documentId).flatMap (f.tree f.entries.size)

end Forest

end Html

end MarkdownDialects
