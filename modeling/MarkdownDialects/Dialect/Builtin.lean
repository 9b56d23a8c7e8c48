import MarkdownDialects.Dialect.Obsidian

/-!
# The built-in dialects
-/

namespace MarkdownDialects

namespace Dialect

/-- Spoilers in pipes become marked spans. -/
def spoilerIngest : RuleSet :=
  [⟨"spoiler", .ingest, Marker.spoilerPipes, .compute Marker.wrapSpoiler⟩]

/-- Marked spans become spoilers in pipes. -/
def spoilerEmit : RuleSet :=
  [⟨"spoiler", .emit, Marker.spoilerSpan, .compute Marker.unwrapSpoiler⟩]

/-- The neutral form itself. -/
def gfm : Dialect where
  id := .gfm
  description := "Tables, task lists, strikethrough and autolinks"
  extensions := ["md", "markdown"]

/-- Markdown without extensions.  It has no place for attribute lists or metadata, so the markers
that other dialects left behind are dropped. -/
def commonMark : Dialect where
  id := .commonMark
  emit :=
    [⟨"strip-attribute-lists", .emit, Marker.attributeListMarkerLine, .literal []⟩,
      ⟨"strip-metadata", .emit, Marker.metadataMarkerBlock, .literal []⟩]

/-- Attribute lists on lines of their own.  A block attribute list belongs to the block right
above it, so the blank line in between goes before the list is unwrapped. -/
def kramdown : Dialect where
  id := .kramdown
  description := "Inline attribute lists"
  extensions := ["kramdown", "kd"]
  ingest :=
    [⟨"attribute-list", .ingest, Marker.attributeListLine, .compute Marker.wrapAttributeList⟩]
  emit :=
    [⟨"attach-attribute-list", .emit, Marker.detachedAttributeList, .template "\n$1".toList⟩,
      ⟨"attribute-list", .emit, Marker.attributeListMarker, .template "$1".toList⟩]

/-- Wiki-links, embeds, callouts and highlights. -/
def obsidian : Dialect where
  id := .obsidian
  description := "Wiki-links, embeds, callouts and ==highlights=="
  ingest := Obsidian.ingestRules
  emit := Obsidian.emitRules

/-- Chat messages with spoilers. -/
def discord : Dialect where
  id := .discord
  description := "||Spoiler|| spans"
  ingest := spoilerIngest
  emit := spoilerEmit

/-- Comments with spoilers. -/
def reddit : Dialect where
  id := .reddit
  description := "||Spoiler|| spans"
  ingest := spoilerIngest
  emit := spoilerEmit

/-- A leading block of metadata lines. -/
def multiMarkdown : Dialect where
  id := .multiMarkdown
  description := "Leading metadata block"
  extensions := ["mmd"]
  ingest := [⟨"metadata", .ingest, Marker.metadataBlock, .compute Marker.wrapMetadata⟩]
  emit := [⟨"metadata", .emit, Marker.metadataMarker, .template "$1".toList⟩]

/-- The built-in dialect of each id. -/
def builtin : DialectId → Dialect
  | .gfm => gfm
  | .commonMark => commonMark
  | .kramdown => kramdown
  | .obsidian => obsidian
  | .discord => discord
  | .reddit => reddit
  | .multiMarkdown => multiMarkdown

end Dialect

end MarkdownDialects
