import MarkdownDialects.Dialect.Id
import MarkdownDialects.Substitution.Rule

/-!
# Dialects

A dialect is a name and two rule sets: one brings its own syntax into the neutral form, the
other brings the neutral form into its syntax.
-/

namespace MarkdownDialects

/-- A dialect of Markdown. -/
structure Dialect where
  id : DialectId
  name : String := id.displayName
  /-- What the dialect adds to the neutral form; may be empty. -/
  description : String := ""
  /-- File extensions, without the leading dot, that imply the dialect. -/
  extensions : List String := []
  ingest : RuleSet := []
  emit : RuleSet := []

/-- The rules of a dialect for one direction. -/
def Dialect.rules (d : Dialect) : Direction → RuleSet
  | .ingest => d.ingest
  | .emit => d.emit

end MarkdownDialects
