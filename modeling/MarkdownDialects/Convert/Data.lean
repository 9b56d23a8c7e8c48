import MarkdownDialects.Convert.Options
import MarkdownDialects.Data.Value

/-!
# Options and ids as data

How conversion options and dialect ids are read from data.  Reading is strict: no value stands for
one of another type, and an id is written exactly.
-/

namespace MarkdownDialects

namespace DialectId

/-- The dialect that a value names: its id, or a table whose only key is the id. -/
def ofValue? : Value → Option DialectId
  | .text t => ofName? t
  | .table [(key, .null)] => ofName? key
  | _ => none

end DialectId

namespace ConversionOptions

/-- A wrap width, which may be null. -/
def widthOfValue? : Value → Option (Option Nat)
  | .null => some none
  | v => v.nat64?.map some

/-- Options from the values of their three fields. -/
def ofFields? (width tighten setext : Value) : Option ConversionOptions := do
  return ⟨← widthOfValue? width, ← tighten.bool?, ← setext.bool?⟩

/-- Options from a table, in which only the width may be missing, or from a list of the three
values. -/
def ofValue? : Value → Option ConversionOptions
  | .table entries => do
    let width := (Value.get? entries "wrap_width").getD .null
    ofFields? width (← Value.get? entries "tighten_lists")
      (← Value.get? entries "use_setext_headings")
  | .list [width, tighten, setext] => ofFields? width tighten setext
  | _ => none

end ConversionOptions

end MarkdownDialects
