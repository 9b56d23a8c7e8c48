import MarkdownDialects.Dialect.Id
import MarkdownDialects.Text.Numeral

/-!
# Conversion errors

What can go wrong in a conversion, and how each cause is worded.  A rule that finds nothing
is no error.
-/

namespace MarkdownDialects

/-- The narrowest accepted wrap width. -/
def minWrapWidth : Nat := 8

/-- The widest accepted wrap width. -/
def maxWrapWidth : Nat := 1024

/-- The causes of a failed conversion. -/
inductive ConvertError where
  /-- The given id names no dialect, or none that is registered. -/
  | unknownDialect (given : Text)
  /-- A wrap width other than zero that is out of range. -/
  | invalidWrapWidth (width : Nat)
  | render (reason : Text)
  | serialize (reason : Text)
deriving DecidableEq

namespace ConvertError

/-- The text shown for an error. -/
def message : ConvertError → Text
  | .unknownDialect given => "Unknown dialect '".toList ++ given ++ ['\'']
  | .invalidWrapWidth width =>
    "Wrap width ".toList ++ Numeral.digits width ++ " is out of range (expected 0 or ".toList ++
      Numeral.digits minWrapWidth ++ "..=".toList ++ Numeral.digits maxWrapWidth ++ [')']
  | .render reason => "Render error: ".toList ++ reason
  | .serialize reason => "Serialization error: ".toList ++ reason

end ConvertError

/-- Read a dialect id, or fail with the text exactly as it was given. -/
def DialectId.parse (t : Text) : Except ConvertError DialectId :=
  match DialectId.parse? t with
  | some id => .ok id
  | none => .error (.unknownDialect t)

end MarkdownDialects
