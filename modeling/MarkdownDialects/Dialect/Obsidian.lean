import MarkdownDialects.Dialect.Basic
import MarkdownDialects.Substitution.Marker
import MarkdownDialects.Text.Percent

/-!
# Obsidian

Wiki-links, embeds, callout headers and highlights become plain Markdown on the way in.  On the
way out only links are replaced, and only those whose destination looks like the name of a note.

Note names may contain spaces, which a bare link destination cannot, so such a destination is
written in angle brackets.  On the way out it may be in brackets or percent-encoded.
-/

namespace MarkdownDialects

namespace Obsidian

/-- Letters as a case-blind search for `a` to `z` sees them: the long s and the Kelvin sign fold
to ASCII letters. -/
def isLetter (c : Char) : Bool := c.isAlpha || c == '\u017f' || c == '\u212a'

/-- One or more letters and `://` at the start. -/
def hasScheme (href : Text) : Bool :=
  match href with
  | c :: _ => isLetter c && Text.startsWith (href.dropWhile isLetter) "://".toList
  | [] => false

/-- A full stop and two to five letters or digits at the end. -/
def hasFileExtension (href : Text) : Bool :=
  let suffix := href.reverse.takeWhile fun c => isLetter c || c.isDigit
  2 ≤ suffix.length && suffix.length ≤ 5 && (href.reverse.drop suffix.length).head? == some '.'

/-- Whether a destination looks like a note: no scheme, no slash and no file extension. -/
def looksInternal (href : Text) : Bool :=
  let href := Text.trim href
  !hasScheme href && !href.contains '/' && !hasFileExtension href

/-- A note name as a link destination, in angle brackets when it contains white space. -/
def linkDestination (target : Text) : Text :=
  if target.any Text.isBlank then ['<'] ++ target ++ ['>'] else target

/-- A destination without its angle brackets. -/
def unbracket (href : Text) : Text :=
  ((Text.after? ['<'] href).bind (Text.before? ['>'])).getD href

/-- The note name a destination stands for: brackets and percent encoding are undone. -/
def noteTarget (href : Text) : Text := Percent.decode (unbracket (Text.trim href))

/-- A nonempty run of characters that satisfy `p`, and what follows it. -/
def run? (p : Char → Bool) (t : Text) : Option (Text × Text) :=
  match t.takeWhile p with
  | [] => none
  | front => some (front, t.dropWhile p)

/-- Any character but a closing bracket. -/
def inBrackets (c : Char) : Bool := c != ']'

/-- Any character but a closing parenthesis. -/
def inParens (c : Char) : Bool := c != ')'

/-- `![[target]]`. -/
def embedPattern : Pattern := fun _ t => do
  let inside ← Text.after? "![[".toList t
  let (target, rest) ← run? inBrackets inside
  let _ ← Text.after? "]]".toList rest
  some ⟨"![[".toList ++ target ++ "]]".toList, [target]⟩

/-- `[[target|alias]]`. -/
def aliasedLinkPattern : Pattern := fun _ t => do
  let inside ← Text.after? "[[".toList t
  let (target, rest) ← run? (fun c => c != '|' && c != ']') inside
  let inside ← Text.after? ['|'] rest
  let (shown, rest) ← run? inBrackets inside
  let _ ← Text.after? "]]".toList rest
  some ⟨"[[".toList ++ target ++ ['|'] ++ shown ++ "]]".toList, [target, shown]⟩

/-- `[[target]]`. -/
def wikiLinkPattern : Pattern := fun _ t => do
  let inside ← Text.after? "[[".toList t
  let (target, rest) ← run? inBrackets inside
  let _ ← Text.after? "]]".toList rest
  some ⟨"[[".toList ++ target ++ "]]".toList, [target]⟩

/-- Characters of a callout's kind. -/
def isKindChar (c : Char) : Bool := c.isAlphanum || c == '_' || c == '-'

/-- A line `> [!kind] title`.  Group 1 is the kind, group 2 the title. -/
def calloutPattern : Pattern := fun before t => do
  guard (Pattern.atLineStart before)
  let rest ← Text.after? ['>'] t
  let inside ← Text.after? "[!".toList (rest.dropWhile Marker.isGap)
  let (kind, after) ← run? isKindChar inside
  let after ← Text.after? [']'] after
  let gap := after.takeWhile Marker.isGap
  let title := (after.dropWhile Marker.isGap).takeWhile (· != '\n')
  some ⟨['>'] ++ rest.takeWhile Marker.isGap ++ "[!".toList ++ kind ++ [']'] ++ gap ++ title,
    [kind, title]⟩

/-- `==marked==` on one line. -/
def highlightPattern : Pattern := fun _ t => do
  let inside ← Text.after? "==".toList t
  let (marked, rest) ← run? (fun c => c != '=' && c != '\n') inside
  let _ ← Text.after? "==".toList rest
  some ⟨"==".toList ++ marked ++ "==".toList, [marked]⟩

/-- The tail of a link: `](destination)`, given the text from the bracket on. -/
def linkTail? (t : Text) : Option Text := do
  let inside ← Text.after? "](".toList t
  let (href, rest) ← run? inParens inside
  let _ ← Text.after? [')'] rest
  some href

/-- `![alt](source)`. -/
def imagePattern : Pattern := fun _ t => do
  let inside ← Text.after? "![".toList t
  let alt := inside.takeWhile inBrackets
  let href ← linkTail? (inside.dropWhile inBrackets)
  some ⟨"![".toList ++ alt ++ "](".toList ++ href ++ [')'], [alt, href]⟩

/-- `[text](destination)`. -/
def linkPattern : Pattern := fun _ t => do
  let inside ← Text.after? ['['] t
  let (text, rest) ← run? inBrackets inside
  let href ← linkTail? rest
  some ⟨['['] ++ text ++ "](".toList ++ href ++ [')'], [text, href]⟩

/-- An embed as an image without alternative text. -/
def embed (m : Match) : Text := "![](".toList ++ linkDestination (m.group 1) ++ [')']

/-- A link with the given text and the destination of a note. -/
def link (text target : Text) : Text :=
  ['['] ++ text ++ "](".toList ++ linkDestination target ++ [')']

/-- An aliased link as a link that shows the alias. -/
def aliasedLink (m : Match) : Text := link (m.group 2) (m.group 1)

/-- A wiki-link as a link that shows the name. -/
def wikiLink (m : Match) : Text := link (m.group 1) (m.group 1)

/-- A callout's kind with its first letter in upper case and the others in lower case. -/
def calloutLabel : Text → Text
  | [] => []
  | c :: cs => c.toUpper :: Text.lowerAscii cs

/-- A callout header as a bold label in a block quote. -/
def callout (m : Match) : Text :=
  let head := "> **".toList ++ calloutLabel (m.group 1) ++ ":**".toList
  let title := Text.trim (m.group 2)
  if title.isEmpty then head else head ++ [' '] ++ title

/-- A reference to a note; the shown text is left out when it says nothing new. -/
def reference (opening target : Text) (shown : Option Text) : Text :=
  match shown with
  | none => opening ++ target ++ "]]".toList
  | some text => opening ++ target ++ ['|'] ++ text ++ "]]".toList

/-- An image of a note as an embed; any other image is kept. -/
def embedBack (m : Match) : Text :=
  let alt := Text.trim (m.group 1)
  let href := noteTarget (m.group 2)
  if !looksInternal href then m.whole
  else reference "![[".toList href (if alt.isEmpty || alt == href then none else some alt)

/-- A link to a note as a wiki-link.  Any other link is kept, and so is escaped text that only
looks like a link: its closing bracket follows a backslash. -/
def linkBack (m : Match) : Text :=
  let text := Text.trim (m.group 1)
  let href := noteTarget (m.group 2)
  if (m.group 1).getLast? == some '\\' || !looksInternal href then m.whole
  else reference "[[".toList href (if text == href then none else some text)

/-- Embeds before aliased links before bare links: each pattern also finds the next one's. -/
def ingestRules : RuleSet :=
  [⟨"embed", .ingest, embedPattern, .compute embed⟩,
    ⟨"aliased-link", .ingest, aliasedLinkPattern, .compute aliasedLink⟩,
    ⟨"wiki-link", .ingest, wikiLinkPattern, .compute wikiLink⟩,
    ⟨"callout", .ingest, calloutPattern, .compute callout⟩,
    ⟨"highlight", .ingest, highlightPattern, .template "**$1**".toList⟩]

/-- Images before links, so that the link rule never sees the tail of an image. -/
def emitRules : RuleSet :=
  [⟨"embed", .emit, imagePattern, .compute embedBack⟩,
    ⟨"wiki-link", .emit, linkPattern, .compute linkBack⟩,
    ⟨"spoiler", .emit, Marker.spoilerSpan, .compute Marker.unwrapSpoiler⟩]

end Obsidian

end MarkdownDialects
