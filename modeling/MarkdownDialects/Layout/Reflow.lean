import MarkdownDialects.Layout.Segment
import MarkdownDialects.Layout.Wrap

/-!
# Reflow

Paragraphs are wrapped again to a given width; every other line stays exactly as it is.  A
paragraph whose wrapped lines would not all read as plain text is left unchanged, so a second
pass finds the same segments as the first.
-/

namespace MarkdownDialects

/-- Whether every line reads as plain text of a paragraph, given the lines after it. -/
def readsAsPlain : List Text → Bool
  | [] => true
  | line :: rest =>
    (Line.kindBefore line rest.head? == .plain && !Line.isSetextUnderline line) &&
      readsAsPlain rest

/-- The words of a paragraph in order. -/
def paragraphWords (ls : List Text) : List Text := ls.flatMap Text.words

/-- The lines of a paragraph wrapped to `width`, or its own lines if the wrapped ones would not
read as plain text. -/
def rewrap (width : Nat) (ls : List Text) : List Text :=
  let wrapped := (Wrap.lines width (paragraphWords ls)).map Text.unwords
  if readsAsPlain wrapped then wrapped else ls

/-- The lines of a segment after reflow. -/
def Segment.reflowed (width : Nat) : Segment → List Text
  | .verbatim line => [line]
  | .paragraph ls => rewrap width ls

/-- Wrap the paragraphs of a text to `width` columns.  A width of zero changes nothing. -/
def reflow (width : Nat) (t : Text) : Text :=
  if width = 0 then t else Text.unlines ((segments t).flatMap (Segment.reflowed width))

@[simp]
theorem reflow_zero (t : Text) : reflow 0 t = t := if_pos rfl

theorem reflow_of_ne_zero {width : Nat} (positive : width ≠ 0) (t : Text) :
    reflow width t = Text.unlines ((segments t).flatMap (Segment.reflowed width)) :=
  if_neg positive

end MarkdownDialects
