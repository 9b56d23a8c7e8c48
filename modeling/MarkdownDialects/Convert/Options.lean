import MarkdownDialects.Convert.Error
import MarkdownDialects.Serialize.Options

/-!
# Options of a conversion

How the output of a conversion is shaped: re-wrapped, with tight lists, with underlined headings.
-/

namespace MarkdownDialects

/-- The shape of the output. -/
structure ConversionOptions where
  /-- Re-wrap paragraphs to so many columns.  Zero leaves them alone, as no width does. -/
  wrapWidth : Option Nat := none
  /-- Remove blank lines between items of the same list. -/
  tightenLists : Bool := false
  /-- Underline headings of the first two levels. -/
  setextHeadings : Bool := false
deriving DecidableEq

namespace ConversionOptions

/-- The width to wrap at, if paragraphs are wrapped at all. -/
def effectiveWrapWidth (o : ConversionOptions) : Option Nat := o.wrapWidth.filter (0 < ·)

/-- Refuse a width that is out of range. -/
def validate (o : ConversionOptions) : Except ConvertError Unit :=
  match o.effectiveWrapWidth with
  | some width =>
    if minWrapWidth ≤ width ∧ width ≤ maxWrapWidth then .ok () else .error (.invalidWrapWidth width)
  | none => .ok ()

/-- The choices of spelling that the options ask for. -/
def serializeOptions (o : ConversionOptions) : SerializeOptions :=
  { headingStyle := if o.setextHeadings then .setext else .atx }

end ConversionOptions

end MarkdownDialects
