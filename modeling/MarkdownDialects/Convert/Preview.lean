import MarkdownDialects.Convert.Error
import MarkdownDialects.Dialect.Obsidian
import MarkdownDialects.Markdown.Render

/-!
# Previews

A preview shows a text as HTML the way its dialect would.  Spoilers become marked spans, and the
links of Obsidian become ordinary ones.  The projected text is only ever rendered.
-/

namespace MarkdownDialects

namespace Preview

/-- The rules that make links between notes ordinary links. -/
def linkRules : RuleSet :=
  [⟨"aliased-link", .ingest, Obsidian.aliasedLinkPattern, .compute Obsidian.aliasedLink⟩,
    ⟨"wiki-link", .ingest, Obsidian.wikiLinkPattern, .compute Obsidian.wikiLink⟩]

/-- The rule that makes spoilers spans. -/
def spoilerRule : Rule := ⟨"spoiler", .ingest, Marker.spoilerPipes, .compute Marker.wrapSpoiler⟩

/-- The rules that make a dialect's syntax plain. -/
def rules (id : DialectId) : RuleSet :=
  if id = .obsidian then linkRules ++ [spoilerRule] else [spoilerRule]

/-- A text whose dialect's syntax is made plain. -/
def project (id : DialectId) (t : Text) : Text := (rules id).apply t

/-- Mark the spans of spoilers in some HTML for display. -/
def showSpoilers (html : Text) : Text :=
  Marker.spoilerSpan.replaceAll
    (Template.expand "<span class=\"spoiler\" title=\"Spoiler\">$\x7b1\x7d</span>".toList) html

end Preview

/-- The HTML of a text as its dialect shows it, by a given renderer. -/
def renderPreviewWith (render : Text → RenderOptions → Except ConvertError Text) (id : DialectId)
    (t : Text) : Except ConvertError Text := do
  return Preview.showSpoilers (← render (Preview.project id t) {})

/-- The HTML of a text as its dialect shows it. -/
def renderPreview (id : DialectId) (t : Text) : Text :=
  Preview.showSpoilers (Markdown.render {} (Preview.project id t))

end MarkdownDialects
