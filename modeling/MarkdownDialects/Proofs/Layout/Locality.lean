import MarkdownDialects.Proofs.Layout.Reflow
import MarkdownDialects.Proofs.Line.OpenFence

/-!
# Reflow is local

A scan carries three things from line to line: the paragraph it is in, the fence that is open, and a
look at the line ahead.  A line that divides (a blank line, a fence delimiter) ends the paragraph
before it and underlines nothing, so of the lines before it only the open fence matters to the lines
behind it (`Segment.ofLines_append_of_divides`).  Behind an empty line outside any fence not even
that is left, and reflow works on the two parts of the text apart (`reflow_append_empty_line`).
-/

namespace MarkdownDialects

namespace Line

/-- A line that belongs to no paragraph, whatever follows it, and makes no heading of the line above
it. -/
structure Divides (line : Text) : Prop where
  stands : ∀ next, Segment.isFlowing line next = false
  clear : isSetextUnderline line = false

theorem divides_of_isBlank {line : Text} (blank : isBlank line) : Divides line where
  stands next := by simp [Segment.isFlowing, blank]
  clear := by
    rw [isSetextUnderline, Text.trim, Text.trimBy_eq_nil_of_all blank]
    rfl

theorem isFenceDelimiter_of_ofLine? {line : Text} {run : Fence}
    (opens : Fence.ofLine? line = some run) : isFenceDelimiter line := by
  rw [isFenceDelimiter, opens, Option.isSome_some]

section Fence

variable {line : Text} (fence : isFenceDelimiter line)
include fence

theorem kindBefore_of_isFenceDelimiter (next : Option Text) :
    kindBefore line next = .fenceDelimiter := by
  have kind : kind line = .fenceDelimiter := by rw [kind, if_pos fence]
  rw [kindBefore, kind]

theorem isSetextUnderline_of_isFenceDelimiter : isSetextUnderline line = false := by
  obtain ⟨run, found⟩ := Option.isSome_iff_exists.mp fence
  obtain ⟨mark, long, length⟩ := Fence.of_ofLine?_eq_some found
  have noRule {c : Char} (rule : c = '=' ∨ c = '-') : (Text.trim line).all (· == c) = false := by
    generalize Text.trim line = shown at length
    cases shown with
    | nil =>
      rw [length] at long
      exact absurd long (by simp [Fence.runLength])
    | cons first rest =>
      have same : first = run.mark := by
        by_contra other
        rw [length, Fence.runLength, List.takeWhile_cons_of_neg (by simpa using other)] at long
        exact absurd long (by simp)
      subst same
      have other : run.mark ≠ c := by
        rcases mark with mark | mark <;> rcases rule with rfl | rfl <;> simp [mark]
      simp [other]
  simp [isSetextUnderline, noRule]

theorem divides_of_isFenceDelimiter : Divides line where
  stands next := by
    simp [Segment.isFlowing, kindBefore_of_isFenceDelimiter fence, LineKind.isStructural]
  clear := isSetextUnderline_of_isFenceDelimiter fence

end Fence

end Line

namespace Segment

open Fence (behindLine behindLines)

/-- Only a fence delimiter opens a fence. -/
theorem fenceAfter_eq (line : Text) (next : Option Text) :
    fenceAfter line next = Fence.ofLine? line := by
  rw [fenceAfter]
  split
  next => rfl
  next other =>
    cases opens : Fence.ofLine? line with
    | none => rfl
    | some run =>
      have fence := Line.isFenceDelimiter_of_ofLine? opens
      exact absurd (Line.kindBefore_of_isFenceDelimiter fence next) other

theorem ofLine?_of_isFlowing {line : Text} {next : Option Text} (flows : isFlowing line next) :
    Fence.ofLine? line = none := by
  have plain := ((isFlowing_iff line next).mp flows).2.1
  cases opens : Fence.ofLine? line with
  | none => rfl
  | some run =>
    rw [Line.kind, if_pos (Line.isFenceDelimiter_of_ofLine? opens)] at plain
    exact absurd plain (by decide)

/-- The fence that a scan leaves open behind some lines, given the one that is open before them. -/
def openBehind : Option Fence → List Text → Option Fence
  | opened, [] => opened
  | some fence, line :: rest => openBehind (if fence.closedBy line then none else some fence) rest
  | none, line :: rest =>
    if isFlowing line rest.head? then openBehind none rest
    else openBehind (fenceAfter line rest.head?) rest

/-- What a scan leaves open can be read line by line, without a look ahead. -/
theorem openBehind_eq (opened : Option Fence) (ls : List Text) :
    openBehind opened ls = behindLines opened ls := by
  induction ls generalizing opened with
  | nil => rw [openBehind]; rfl
  | cons line rest ih =>
    cases opened with
    | some fence => exact ih _
    | none =>
      rw [openBehind, Fence.behindLines_cons, Fence.behindLine_none]
      split
      next flows => rw [ih, ofLine?_of_isFlowing flows]
      next => rw [ih, fenceAfter_eq]

theorem consFlowing_append (line other : Text) (ss rest : List Segment) :
    consFlowing line (ss ++ .verbatim other :: rest) =
      consFlowing line ss ++ .verbatim other :: rest := by
  match ss with
  | [] => rfl
  | .paragraph _ :: _ => rfl
  | .verbatim _ :: _ => rfl

/-- A line that divides stands wherever it is and ends the paragraph before it, so that what is
before it and what is behind it are scanned apart. -/
theorem ofLines_append_of_divides {line : Text} (divides : Line.Divides line)
    (opened : Option Fence) (ls rest : List Text) :
    ofLines opened (ls ++ line :: rest) =
      ofLines opened ls ++ .verbatim line :: ofLines (behindLines opened (ls ++ [line])) rest := by
  -- Of the line that divides, the line before it asks only whether it is an underline.
  induction ls generalizing opened with
  | nil =>
    cases opened with
    | none =>
      have step : ofLines none (line :: rest) =
          .verbatim line :: ofLines (Fence.ofLine? line) rest := by
        rw [ofLines, divides.stands, if_neg Bool.false_ne_true, fenceAfter_eq]
      exact step
    | some run => rfl
  | cons first ls ih =>
    cases opened with
    | none =>
      have same : isFlowing first (ls ++ line :: rest).head? = isFlowing first ls.head? := by
        refine isFlowing_congr first ?_
        cases ls with
        | nil => exact divides.clear
        | cons _ _ => rfl
      rw [List.cons_append, ofLines, ofLines, same]
      split
      next flows =>
        have unopened : behindLines none (first :: (ls ++ [line])) =
            behindLines none (ls ++ [line]) := by
          rw [Fence.behindLines_cons, Fence.behindLine_none, ofLine?_of_isFlowing flows]
        rw [ih, consFlowing_append, List.cons_append, unopened]
      next =>
        rw [ih, fenceAfter_eq, fenceAfter_eq]
        rfl
    | some run =>
      rw [List.cons_append, ofLines, ih]
      rfl

end Segment

/-- The segments before an empty line outside any fence, and those behind it. -/
theorem segments_append_empty_line {front : Text}
    (closed : Segment.openBehind none (Text.lines front) = none) (back : Text) :
    segments (front ++ ['\n', '\n'] ++ back) =
      segments front ++ .verbatim [] :: segments back := by
  have split : front ++ ['\n', '\n'] ++ back = front ++ '\n' :: ([] ++ '\n' :: back) := by simp
  have behind : Fence.behindLines none (Text.lines front ++ [[]]) = none := by
    rw [Fence.behindLines_append, ← Segment.openBehind_eq none, closed]
    rfl
  rw [segments, split, Text.lines_append_feed, Text.lines_append_feed,
    Text.lines_of_not_mem List.not_mem_nil, List.singleton_append,
    Segment.ofLines_append_of_divides (Line.divides_of_isBlank rfl), behind]
  rfl

/-- **Reflow is local.**  An empty line outside any fence parts a text in two, and reflow of the
whole is reflow of each part for itself. -/
theorem reflow_append_empty_line (width : Nat) {front : Text}
    (closed : Segment.openBehind none (Text.lines front) = none) (back : Text) :
    reflow width (front ++ ['\n', '\n'] ++ back) =
      reflow width front ++ ['\n', '\n'] ++ reflow width back := by
  rcases eq_or_ne width 0 with rfl | positive
  · rw [reflow_zero, reflow_zero, reflow_zero]
  · simp only [reflow_of_ne_zero positive]
    rw [segments_append_empty_line closed, List.flatMap_append, List.flatMap_cons]
    exact Text.unlines_append_empty_line (flatMap_reflowed_ne_nil positive front)
      (flatMap_reflowed_ne_nil positive back)

/-- Closed code and a line that is not yet a heading before the empty line, and behind it a line that
would have underlined it. -/
theorem reflow_append_empty_line_of_underline :
    let front := "aa bb cc\n```\nx   y\n```\nTitle".toList
    let back := "===\nbb   cc".toList
    Segment.openBehind none (Text.lines front) = none ∧
      reflow 5 (front ++ ['\n', '\n'] ++ back) =
        reflow 5 front ++ ['\n', '\n'] ++ reflow 5 back := by
  intro front back
  have closed : Segment.openBehind none (Text.lines front) = none := by decide
  exact ⟨closed, reflow_append_empty_line 5 closed back⟩

end MarkdownDialects
