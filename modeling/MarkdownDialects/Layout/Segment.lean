import MarkdownDialects.Line.Kind

/-!
# Segments of a document

A document, read line by line, is a sequence of segments: lines that stand as they are, and
paragraphs, which are the maximal runs of the lines between them.  A line stands as it is when it
is a fence delimiter, lies inside an open fence, is blank, is structure, or underlines a heading.
-/

namespace MarkdownDialects

/-- A line that stands as it is, or the lines of one paragraph. -/
inductive Segment where
  | verbatim (line : Text)
  | paragraph (lines : List Text)
deriving DecidableEq

namespace Segment

/-- The lines a segment is made of. -/
def lines : Segment → List Text
  | .verbatim line => [line]
  | .paragraph ls => ls

/-- Whether a line outside a fence belongs to a paragraph, given the line after it. -/
def isFlowing (line : Text) (next : Option Text) : Bool :=
  !Line.isBlank line && !(Line.kindBefore line next).isStructural && !Line.isSetextUnderline line

/-- Put a paragraph line in front: it joins the paragraph that comes next, if one does. -/
def consFlowing (line : Text) : List Segment → List Segment
  | .paragraph ls :: rest => .paragraph (line :: ls) :: rest
  | rest => .paragraph [line] :: rest

/-- The fence open after a line that is outside any fence. -/
def fenceAfter (line : Text) (next : Option Text) : Option Fence :=
  if Line.kindBefore line next = .fenceDelimiter then Fence.ofLine? line else none

/-- The segments of the remaining lines, given the fence that is open before them. -/
def ofLines : Option Fence → List Text → List Segment
  | _, [] => []
  | some fence, line :: rest =>
    .verbatim line :: ofLines (if fence.closedBy line then none else some fence) rest
  | none, line :: rest =>
    if isFlowing line rest.head? then consFlowing line (ofLines none rest)
    else .verbatim line :: ofLines (fenceAfter line rest.head?) rest

/-- Putting a line in front of segments puts it in front of their lines. -/
@[simp]
theorem flatMap_lines_consFlowing (line : Text) (ss : List Segment) :
    (consFlowing line ss).flatMap lines = line :: ss.flatMap lines := by
  match ss with
  | [] => rfl
  | .paragraph _ :: _ => rfl
  | .verbatim _ :: _ => rfl

/-- Segments hold the lines they are made from, in order. -/
@[simp]
theorem flatMap_lines_ofLines (opened : Option Fence) (ls : List Text) :
    (ofLines opened ls).flatMap lines = ls := by
  induction ls generalizing opened with
  | nil => simp [ofLines]
  | cons line rest ih =>
    match opened with
    | some fence => simp [ofLines, lines, ih]
    | none =>
      rw [ofLines]
      split
      · rw [flatMap_lines_consFlowing, ih]
      · simp [lines, ih]

end Segment

/-- The segments of a whole document. -/
def segments (t : Text) : List Segment := Segment.ofLines none (Text.lines t)

end MarkdownDialects
