import MarkdownDialects.Line.Kind

/-!
# Tight lists

The single empty line between two items of the same family is removed, so that a loose list
becomes a tight one.
-/

namespace MarkdownDialects

namespace Tighten

/-- The family of a list item line with at least two characters after its marker. -/
def itemWithContent? (line : Text) : Option ListFamily :=
  match Line.splitMarker? (Text.trimStart line) with
  | some (family, after) => if Line.startsBlank after && 2 ≤ after.length then some family else none
  | none => none

/-- Whether an empty line between `before` and `next` is a gap inside one list. -/
def isGap (before : Text) (next : Option Text) : Bool :=
  match itemWithContent? before, next with
  | some family, some line => Line.listMarker? line == some family
  | _, _ => false

/-- The lines without the gaps inside lists; `before` is the line that precedes them. -/
def dropGaps : Option Text → List Text → List Text
  | _, [] => []
  | before, line :: rest =>
    if line.isEmpty && before.any (isGap · rest.head?) then dropGaps (some line) rest
    else line :: dropGaps (some line) rest

/-- Dropping gaps takes lines away and does nothing else. -/
theorem dropGaps_sublist (before : Option Text) (ls : List Text) :
    (dropGaps before ls).Sublist ls := by
  induction ls generalizing before with
  | nil => exact .slnil
  | cons line rest ih =>
    rw [dropGaps]
    split
    · exact (ih _).cons _
    · exact (ih _).cons_cons _

end Tighten

/-- Remove the empty lines between neighbouring items of the same list family. -/
def tighten (t : Text) : Text := Text.unlines (Tighten.dropGaps none (Text.lines t))

end MarkdownDialects
