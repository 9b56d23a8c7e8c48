import MarkdownDialects.Text.Basic

/-!
# Dialect ids

The fixed vocabulary of dialects: their textual ids, their display names, and how an id is read.
-/

namespace MarkdownDialects

/-- The supported dialects, in presentation order. -/
inductive DialectId where
  | gfm
  | commonMark
  | kramdown
  | obsidian
  | discord
  | reddit
  | multiMarkdown
deriving DecidableEq

namespace DialectId

/-- Every dialect, in presentation order. -/
def all : List DialectId :=
  [.gfm, .commonMark, .kramdown, .obsidian, .discord, .reddit, .multiMarkdown]

/-- The lower-case textual id. -/
def name : DialectId → String
  | .gfm => "gfm"
  | .commonMark => "commonmark"
  | .kramdown => "kramdown"
  | .obsidian => "obsidian"
  | .discord => "discord"
  | .reddit => "reddit"
  | .multiMarkdown => "multimarkdown"

/-- The name shown to people. -/
def displayName : DialectId → String
  | .gfm => "GitHub Flavored Markdown (GFM)"
  | .commonMark => "CommonMark"
  | .kramdown => "Kramdown"
  | .obsidian => "Obsidian Markdown"
  | .discord => "Discord Markdown"
  | .reddit => "Reddit Markdown"
  | .multiMarkdown => "MultiMarkdown"

/-- The dialect with exactly this id. -/
def ofName? (t : Text) : Option DialectId := all.find? fun d => d.name.toList == t

/-- The dialect with this id, whatever the case of its letters. -/
def ofNameIgnoringCase? (t : Text) : Option DialectId :=
  all.find? fun d => Text.eqIgnoreAsciiCase d.name.toList t

/-- Read a dialect id: white space around it and the case of its letters do not matter. -/
def parse? (t : Text) : Option DialectId := ofNameIgnoringCase? (Text.trim t)

end DialectId

end MarkdownDialects
