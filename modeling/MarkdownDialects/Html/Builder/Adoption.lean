import MarkdownDialects.Html.Builder.Insert

/-!
# Mending overlapping formatting

When a formatting element ends while a block inside it is still open, the block is taken out of the
element, and a new element of the same kind is put around the block's content.
-/

namespace MarkdownDialects

namespace Html

namespace Builder

/-- Close the innermost element of the given name, unless an element with rules of its own comes
before it. -/
def closeOther (b : Builder) (name : String) : Builder :=
  match b.stack.find? fun e => e.isNamed name || e.isIn ElementClass.special with
  | some e =>
    if e.isNamed name then (b.popImplied name).popThrough (·.id == e.id) else b
  | none => b

/-- Where the renewed element goes in the list of formatting elements. -/
inductive Bookmark where
  | inPlace
  | newerThan (id : NodeId)

/-- The state of taking a block out of the elements around it. -/
structure Lifting where
  builder : Builder
  /-- The node that is lifted so far. -/
  last : NodeId
  bookmark : Bookmark
  /-- The elements kept between the block and the formatting element, innermost first. -/
  kept : List OpenElement

/-- Lift the block `furthest` out of the elements between it and the formatting element, innermost
first.  The first three of them that format text are renewed around it; the others are dropped from
the stack. -/
def lift (furthest : NodeId) : Nat → List OpenElement → Lifting → Lifting
  | _, [], s => s
  | count, e :: rest, s =>
    if 3 ≤ count then
      lift furthest (count + 1) rest { s with builder := s.builder.removeFormatting e.id }
    else
      match s.builder.formattingTag? e.id with
      | none => lift furthest (count + 1) rest s
      | some tag =>
        let (b, renewed) := s.builder.create .html tag.name tag.attributes
        let formatting := b.formatting.map fun entry =>
          if FormattingEntry.isOf e.id entry then .element renewed tag else entry
        let bookmark := if s.last = furthest then .newerThan renewed.id else s.bookmark
        let forest := b.forest.append renewed.id s.last
        lift furthest (count + 1) rest
          ⟨{ b with formatting, forest }, renewed.id, bookmark, s.kept ++ [renewed]⟩

/-- Put the renewed formatting element into the list in place of the old one. -/
def renewEntry (entries : List FormattingEntry) (old : NodeId) (new : FormattingEntry) :
    Bookmark → List FormattingEntry
  | .inPlace => entries.map fun entry => if FormattingEntry.isOf old entry then new else entry
  | .newerThan id =>
    (entries.flatMap fun entry =>
      if FormattingEntry.isOf id entry then [new, entry] else [entry]).filter
        fun entry => !FormattingEntry.isOf old entry

/-- One round of ending the innermost formatting element with the given name.  The second part of
the answer tells whether another round may follow. -/
def adoptOnce (b : Builder) (name : String) : Builder × Bool :=
  match b.recentFormatting.find? fun (_, tag) => tag.name == name with
  | none => (b.closeOther name, false)
  | some (e, tag) =>
    if !b.stack.any (·.id == e.id) then (b.removeFormatting e.id, false)
    else if !inScope (OpenElement.bounds ElementClass.scope) (·.id == e.id) b.stack then (b, false)
    else
      let inner := b.stack.takeWhile (·.id != e.id)
      let outer := (b.stack.dropWhile (·.id != e.id)).drop 1
      match inner.reverse.find? (·.isIn ElementClass.special), outer with
      | some furthest, ancestor :: _ =>
        let above := inner.takeWhile (·.id != furthest.id)
        let between := (inner.dropWhile (·.id != furthest.id)).drop 1
        let s := lift furthest.id 0 between ⟨b, furthest.id, .inPlace, []⟩
        let b := s.builder
        let b := { b with forest := b.forest.detach s.last }
        let b := b.putNode (b.placeIn ancestor) s.last
        let (b, renewed) := b.create .html tag.name tag.attributes
        let forest := (b.forest.moveChildren furthest.id renewed.id).append furthest.id renewed.id
        let formatting := renewEntry b.formatting e.id (.element renewed tag) s.bookmark
        let stack := above ++ renewed :: furthest :: s.kept ++ outer
        ({ b with forest, formatting, stack }, true)
      | _, _ => ({ b with stack := outer }.removeFormatting e.id, false)

/-- End formatting elements with the given name, in at most so many rounds. -/
def adoptRounds (name : String) : Nat → Builder → Builder
  | 0, b => b
  | n + 1, b =>
    match b.adoptOnce name with
    | (b, true) => adoptRounds name n b
    | (b, false) => b

/-- End the formatting element with the given name. -/
def adopt (b : Builder) (name : String) : Builder :=
  match b.stack with
  | e :: _ =>
    if e.isNamed name && (b.formattingTag? e.id).isNone then b.pop else adoptRounds name 8 b
  | [] => b

/-- End an open link, since links do not nest. -/
def endOpenLink (b : Builder) : Builder :=
  match b.recentFormatting.find? fun (e, _) => e.isNamed "a" with
  | some (e, _) => ((b.adopt "a").removeFormatting e.id).removeOpen e.id
  | none => b

end Builder

end Html

end MarkdownDialects
