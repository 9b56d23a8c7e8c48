import MarkdownDialects.Substitution.Pattern

/-!
# Pass-through markers

Placeholders that carry syntax of one dialect across rendering and serializing.  A spoiler travels
as an inline `span` element, an attribute list and a metadata block as comments.  This module holds
the patterns that find such syntax and its markers, and the texts that wrap and unwrap them.
-/

namespace MarkdownDialects

namespace Marker

/-- The attribute that marks a spoiler span. -/
def spoilerAttribute : String := "data-spoiler"

/-- The pipes around a spoiler. -/
def pipes : Text := "||".toList

/-- The opening tag of a spoiler span. -/
def spoilerOpen : Text := "<span data-spoiler>".toList

/-- The closing tag of a spoiler span. -/
def spoilerClose : Text := "</span>".toList

/-- The start of a wrapped attribute list. -/
def attributeListOpen : Text := "<!--kramdown-attrlist:".toList

/-- The end of every comment. -/
def commentClose : Text := "-->".toList

/-- The start of a wrapped metadata block. -/
def metadataOpen : Text := "<!--mmd-meta-start\n".toList

/-- The end of a wrapped metadata block. -/
def metadataClose : Text := "mmd-meta-end-->".toList

/-- Spaces and tabs. -/
def isGap (c : Char) : Bool := c == ' ' || c == '\t'

/-- Text between an opening and the first closing mark after it. -/
def enclosed (opening closing : Text) : Pattern := fun _ t => do
  let inside ← Text.after? opening t
  let (payload, _) ← Text.cutAt? closing inside
  some ⟨opening ++ payload ++ closing, [payload]⟩

/-- `||payload||`, the shortest payload. -/
def spoilerPipes : Pattern := enclosed pipes pipes

/-- `<span data-spoiler>payload</span>`, the shortest payload. -/
def spoilerSpan : Pattern := enclosed spoilerOpen spoilerClose

/-- An attribute list `{: ... }` at the start of a text: the list and what follows it.  The list is
not empty and holds no closing brace, but it may span lines. -/
def attributeList? (t : Text) : Option (Text × Text) := do
  let inside ← Text.after? ['{', ':'] t
  let payload := inside.takeWhile (· != '}')
  match payload, inside.dropWhile (· != '}') with
  | _ :: _, '}' :: rest => some (['{', ':'] ++ payload ++ ['}'], rest)
  | _, _ => none

/-- A line that holds only an attribute list.  Group 1 is the indentation, group 2 the list. -/
def attributeListLine : Pattern := fun before t => do
  guard (Pattern.atLineStart before)
  let indent := t.takeWhile isGap
  let (list, rest) ← attributeList? (t.dropWhile isGap)
  guard (Pattern.atLineEnd (rest.dropWhile isGap))
  some ⟨indent ++ list ++ rest.takeWhile isGap, [indent, list]⟩

/-- A wrapped attribute list at the start of a text: the list and the whole marker. -/
def wrappedList? (t : Text) : Option (Text × Text) := do
  let inside ← Text.after? attributeListOpen t
  let (list, rest) ← attributeList? inside
  let _ ← Text.after? commentClose rest
  some (list, attributeListOpen ++ list ++ commentClose)

/-- A wrapped attribute list.  Group 1 is the list. -/
def attributeListMarker : Pattern := fun _ t => do
  let (list, marker) ← wrappedList? t
  some ⟨marker, [list]⟩

/-- A wrapped attribute list that a blank line separates from what precedes it.  Group 1 is the
marker with its indentation. -/
def detachedAttributeList : Pattern := fun _ t => do
  let rest ← Text.after? ['\n', '\n'] t
  let indent := rest.takeWhile isGap
  let (_, marker) ← wrappedList? (rest.dropWhile isGap)
  some ⟨['\n', '\n'] ++ indent ++ marker, [indent ++ marker]⟩

/-- A whole line that holds a wrapped attribute list, with all line feeds before it. -/
def attributeListMarkerLine : Pattern := fun before t => do
  let feeds := t.takeWhile (· == '\n')
  guard (!feeds.isEmpty || Pattern.atLineStart before)
  let line := (t.dropWhile (· == '\n')).takeWhile (· != '\n')
  let inside ← Text.after? attributeListOpen (line.dropWhile isGap)
  let _ ← Text.before? commentClose inside
  some ⟨feeds ++ line, []⟩

/-- Characters of a metadata key after its first letter. -/
def isKeyChar (c : Char) : Bool := c.isAlphanum || c == ' ' || c == '_' || c == '-'

/-- Whether a line without its line feed is a metadata line: a key that starts with a letter, a
colon, and a space or tab. -/
def isMetadataLine : Text → Bool
  | [] => false
  | c :: cs =>
    c.isAlpha &&
      match cs.dropWhile isKeyChar with
      | ':' :: d :: _ => isGap d
      | _ => false

/-- The leading metadata lines of a text with their line feeds, and what follows them.  `line`
collects, in reverse, the line being read. -/
def metadataLines : Text → Text → Text × Text
  | line, [] => ([], line.reverse)
  | line, '\n' :: cs =>
    if isMetadataLine line.reverse then
      let (block, rest) := metadataLines [] cs
      (line.reverse ++ '\n' :: block, rest)
    else ([], line.reverse ++ '\n' :: cs)
  | line, c :: cs => metadataLines (c :: line) cs

/-- A block of metadata lines at the very start of a text, with the empty line after it. -/
def metadataBlock : Pattern := fun before t => do
  guard before.isNone
  match metadataLines [] t with
  | (block@(_ :: _), '\n' :: _) => some ⟨block ++ ['\n'], []⟩
  | _ => none

/-- A wrapped metadata block with the line feed after it.  Group 1 is the metadata lines. -/
def metadataMarker : Pattern := fun _ t => do
  let inside ← Text.after? metadataOpen t
  let (payload, rest) ← Text.cutAt? metadataClose inside
  let feed := if rest.head? = some '\n' then ['\n'] else []
  some ⟨metadataOpen ++ payload ++ metadataClose ++ feed, [payload]⟩

/-- A wrapped metadata block at the start of a line, with every line feed after it. -/
def metadataMarkerBlock : Pattern := fun before t => do
  guard (Pattern.atLineStart before)
  let inside ← Text.after? metadataOpen t
  let (payload, rest) ← Text.cutAt? metadataClose inside
  some ⟨metadataOpen ++ payload ++ metadataClose ++ rest.takeWhile (· == '\n'), []⟩

/-- A spoiler as a span. -/
def wrapSpoiler (m : Match) : Text := spoilerOpen ++ m.group 1 ++ spoilerClose

/-- A spoiler in pipes. -/
def unwrapSpoiler (m : Match) : Text := pipes ++ m.group 1 ++ pipes

/-- An attribute list as a comment; its indentation stays in front. -/
def wrapAttributeList (m : Match) : Text :=
  m.group 1 ++ attributeListOpen ++ m.group 2 ++ commentClose

/-- A metadata block as one comment, with the empty line kept behind it. -/
def wrapMetadata (m : Match) : Text :=
  let block := m.whole
  metadataOpen ++ (Text.before? ['\n'] block).getD block ++ metadataClose ++ ['\n', '\n']

end Marker

end MarkdownDialects
