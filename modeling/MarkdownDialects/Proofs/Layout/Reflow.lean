import Mathlib.Data.List.Forall2
import MarkdownDialects.Layout.Reflow
import MarkdownDialects.Proofs.Layout.Segmentation
import MarkdownDialects.Proofs.Layout.Wrap

/-!
# What reflow keeps

Wrapping a paragraph keeps its words, and whatever comes out still reads as one paragraph between
the same neighbours, because a wrapped paragraph that would not is left as it was.  So the segments
of a reflowed text are the segments of the text with each paragraph wrapped (`segments_reflow`).
It follows that reflow keeps every line that stands and every word in its place
(`segments_agree_reflow`), and that a second pass changes nothing (`reflow_idempotent`).
-/

namespace MarkdownDialects

/-- Lines that are shown read as plain text when all of them flow at the end of a text. -/
theorem readsAsPlain_iff {ls : List Text} (shown : ∀ line ∈ ls, Line.isBlank line = false) :
    readsAsPlain ls ↔ Segment.AllFlowing ls none := by
  induction ls with
  | nil => simp [readsAsPlain, Segment.AllFlowing]
  | cons line rest ih =>
    have blank : Line.isBlank line = false := shown line List.mem_cons_self
    have others := ih fun other member => shown other (List.mem_cons_of_mem _ member)
    simp only [readsAsPlain, Segment.AllFlowing, Bool.and_eq_true, others, Option.or_none,
      Segment.isFlowing, blank, LineKind.isStructural, bne, Bool.not_not, Bool.not_false,
      Bool.true_and]

/-- The words of a paragraph are words. -/
theorem isWord_of_mem_paragraphWords {ls : List Text} :
    ∀ w ∈ paragraphWords ls, Text.IsWord w := by
  intro w member
  obtain ⟨line, _, inside⟩ := List.mem_flatMap.mp member
  exact Text.isWord_of_mem_words inside

/-- The lines of a paragraph filled to `width`, whatever they read as. -/
def wrapped (width : Nat) (ls : List Text) : List Text :=
  (Wrap.lines width (paragraphWords ls)).map Text.unwords

/-- A paragraph is replaced by its wrapped lines if these read as plain text, and kept if not. -/
theorem rewrap_eq (width : Nat) (ls : List Text) :
    rewrap width ls = if readsAsPlain (wrapped width ls) then wrapped width ls else ls := rfl

@[simp]
theorem paragraphWords_wrapped (width : Nat) (ls : List Text) :
    paragraphWords (wrapped width ls) = paragraphWords ls :=
  Wrap.flatMap_words_lines isWord_of_mem_paragraphWords

/-- Wrapping looks at the words of a paragraph only. -/
theorem wrapped_congr (width : Nat) {ls ms : List Text}
    (same : paragraphWords ls = paragraphWords ms) : wrapped width ls = wrapped width ms := by
  unfold wrapped
  rw [same]

/-- Wrapping keeps the words of a paragraph, in order. -/
@[simp]
theorem paragraphWords_rewrap (width : Nat) (ls : List Text) :
    paragraphWords (rewrap width ls) = paragraphWords ls := by
  rw [rewrap_eq]
  split
  · exact paragraphWords_wrapped width ls
  · rfl

/-- A wrapped paragraph stays as it is when it is wrapped again. -/
theorem rewrap_rewrap (width : Nat) (ls : List Text) :
    rewrap width (rewrap width ls) = rewrap width ls := by
  have same : wrapped width (rewrap width ls) = wrapped width ls :=
    wrapped_congr width (paragraphWords_rewrap width ls)
  rw [rewrap_eq width (rewrap width ls), same, rewrap_eq width ls]
  split
  · rfl
  · rfl

namespace Segment

/-- A line that flows shows at least one word. -/
theorem words_ne_nil_of_isFlowing {line : Text} {next : Option Text}
    (flows : isFlowing line next) : Text.words line ≠ [] := by
  have shown : Line.isBlank line = false := ((isFlowing_iff line next).mp flows).1
  rw [Ne, Text.words_eq_nil_iff]
  simp [shown]

/-- A paragraph has words. -/
theorem AllFlowing.paragraphWords_ne_nil {ls : List Text} {next : Option Text}
    (flowing : AllFlowing ls next) (nonempty : ls ≠ []) : paragraphWords ls ≠ [] := by
  obtain ⟨line, rest, rfl⟩ := List.exists_cons_of_ne_nil nonempty
  intro empty
  exact words_ne_nil_of_isFlowing flowing.1 (List.append_eq_nil_iff.mp empty).1

/-- A paragraph keeps at least one line. -/
theorem AllFlowing.rewrap_ne_nil {ls : List Text} {next : Option Text} (width : Nat)
    (flowing : AllFlowing ls next) (nonempty : ls ≠ []) : rewrap width ls ≠ [] := by
  intro empty
  apply flowing.paragraphWords_ne_nil nonempty
  rw [← paragraphWords_rewrap width ls, empty]
  rfl

/-- A wrapped paragraph is a paragraph in front of the same line. -/
theorem AllFlowing.rewrap {ls : List Text} {next : Option Text} (width : Nat)
    (flowing : AllFlowing ls next) (nonempty : ls ≠ []) :
    AllFlowing (rewrap width ls) next := by
  rw [rewrap_eq]
  split
  · rename_i plain
    have shown : ∀ line ∈ wrapped width ls, Line.isBlank line = false := fun line member =>
      Wrap.isAllBlank_of_mem_lines isWord_of_mem_paragraphWords member
    exact ((readsAsPlain_iff shown).mp plain).congr (flowing.clear nonempty).symm
  · exact flowing

/-- A segment after reflow. -/
def rewrapped (width : Nat) : Segment → Segment
  | .verbatim line => .verbatim line
  | .paragraph ls => .paragraph (rewrap width ls)

@[simp]
theorem lines_rewrapped (width : Nat) (s : Segment) :
    (s.rewrapped width).lines = s.reflowed width := by
  cases s <;> rfl

@[simp]
theorem reflowed_rewrapped (width : Nat) (s : Segment) :
    (s.rewrapped width).reflowed width = s.reflowed width := by
  cases s with
  | verbatim line => rfl
  | paragraph ls => exact rewrap_rewrap width ls

/-- The first line of a paragraph is no underline. -/
theorem AllFlowing.head_clear {ls : List Text} {next after : Option Text}
    (flowing : AllFlowing ls next) (nonempty : ls ≠ []) :
    (ls.head?.or after).any Line.isSetextUnderline = false := by
  obtain ⟨line, rest, rfl⟩ := List.exists_cons_of_ne_nil nonempty
  exact ((isFlowing_iff line _).mp flowing.1).2.2.1

/-- Reflow neither makes nor removes an underline at the front. -/
theorem Segmentation.firstLine_rewrapped {opened : Option Fence} {ss : List Segment} (width : Nat)
    (segmented : Segmentation opened ss) :
    (firstLine (ss.map (rewrapped width))).any Line.isSetextUnderline =
      (firstLine ss).any Line.isSetextUnderline := by
  cases segmented with
  | nil => rfl
  | fenced _ => rfl
  | standing _ _ => rfl
  | paragraph nonempty flowing _ _ =>
    have before := flowing.rewrap width nonempty
    have kept := flowing.rewrap_ne_nil width nonempty
    simp only [firstLine, List.map_cons, List.flatMap_cons, List.head?_append, lines, rewrapped]
    rw [before.head_clear kept, flowing.head_clear nonempty]

/-- Reflow turns a segmentation into one: no wrapped line opens a fence, becomes structure or
changes what the line above it is. -/
theorem Segmentation.map_rewrapped {opened : Option Fence} {ss : List Segment} (width : Nat)
    (segmented : Segmentation opened ss) : Segmentation opened (ss.map (rewrapped width)) := by
  induction segmented with
  | nil opened => exact .nil opened
  | fenced _ ih => exact .fenced ih
  | @standing line rest stands tail ih =>
    have same := tail.firstLine_rewrapped width
    refine .standing ?_ ?_
    · rw [isFlowing_congr line same]
      exact stands
    · rw [fenceAfter_congr line same]
      exact ih
  | @paragraph ls rest nonempty flowing maximal tail ih =>
    refine .paragraph (flowing.rewrap_ne_nil width nonempty) ?_ ?_ ih
    · exact (flowing.rewrap width nonempty).congr (tail.firstLine_rewrapped width).symm
    · intro more others continued
      cases rest with
      | nil => exact absurd continued (by simp)
      | cons first rest =>
        cases first with
        | verbatim line => exact absurd continued (by simp [rewrapped])
        | paragraph ms => exact maximal ms rest rfl

end Segment

/-- Wrapping a paragraph of a text puts no line feed into a line. -/
theorem feed_not_mem_of_mem_reflowed {width : Nat} {t line : Text} {s : Segment}
    (segment : s ∈ segments t) (member : line ∈ s.reflowed width) : '\n' ∉ line := by
  have clean : ∀ other ∈ s.lines, '\n' ∉ other := by
    intro other inside
    apply Text.feed_not_mem_of_mem_lines (t := t)
    rw [← flatMap_lines_segments t]
    exact List.mem_flatMap.mpr ⟨s, segment, inside⟩
  cases s with
  | verbatim _ => exact clean line member
  | paragraph ls =>
    rw [Segment.reflowed, rewrap_eq] at member
    split at member
    · exact Wrap.feed_not_mem_of_mem_lines isWord_of_mem_paragraphWords member
    · exact clean line member

/-- The lines of a reflowed text are those of its segments, each reflowed. -/
theorem lines_reflow {width : Nat} (positive : width ≠ 0) (t : Text) :
    Text.lines (reflow width t) = (segments t).flatMap (Segment.reflowed width) := by
  rw [reflow_of_ne_zero positive]
  apply Text.lines_unlines
  · -- A segmentation without lines has no segments, but every text has a line.
    intro empty
    have segmented := (segmentation_segments t).map_rewrapped width
    have scanned := segmented.ofLines_flatMap
    simp only [List.flatMap_map, Segment.lines_rewrapped, empty, Segment.ofLines] at scanned
    have none : segments t = [] := List.map_eq_nil_iff.mp scanned.symm
    have lines := flatMap_lines_segments t
    rw [none] at lines
    exact List.splitOn_ne_nil '\n' t lines.symm
  · intro line member
    obtain ⟨s, segment, inside⟩ := List.mem_flatMap.mp member
    exact feed_not_mem_of_mem_reflowed segment inside

theorem flatMap_reflowed_ne_nil {width : Nat} (positive : width ≠ 0) (t : Text) :
    (segments t).flatMap (Segment.reflowed width) ≠ [] := by
  rw [← lines_reflow positive]
  exact List.splitOn_ne_nil '\n' _

/-- The segments of a reflowed text are those of the text, with each paragraph wrapped. -/
theorem segments_reflow {width : Nat} (positive : width ≠ 0) (t : Text) :
    segments (reflow width t) = (segments t).map (Segment.rewrapped width) := by
  rw [segments, Segment.ofLines_eq_iff, lines_reflow positive]
  refine ⟨(segmentation_segments t).map_rewrapped width, ?_⟩
  rw [List.flatMap_map]
  simp only [Segment.lines_rewrapped]

/-- **A second pass changes nothing.** -/
theorem reflow_idempotent (width : Nat) (t : Text) :
    reflow width (reflow width t) = reflow width t := by
  by_cases zero : width = 0
  · rw [reflow, if_pos zero]
  · calc reflow width (reflow width t)
        = Text.unlines ((segments (reflow width t)).flatMap (Segment.reflowed width)) := by
          rw [reflow, if_neg zero]
      _ = Text.unlines ((segments t).flatMap (Segment.reflowed width)) := by
          rw [segments_reflow zero, List.flatMap_map]
          simp only [Segment.reflowed_rewrapped]
      _ = reflow width t := by
          rw [reflow, if_neg zero]

namespace Segment

/-- Two segments say the same: both are one and the same line that stands, or both are paragraphs,
of the same words in the same order. -/
inductive Agrees : Segment → Segment → Prop
  | verbatim (line : Text) : Agrees (.verbatim line) (.verbatim line)
  | paragraph {ls ms : List Text} (sameWords : paragraphWords ls = paragraphWords ms) :
      Agrees (.paragraph ls) (.paragraph ms)

theorem Agrees.refl (s : Segment) : Agrees s s := by
  cases s with
  | verbatim line => exact .verbatim line
  | paragraph ls => exact .paragraph rfl

theorem agrees_rewrapped (width : Nat) (s : Segment) : Agrees s (s.rewrapped width) := by
  cases s with
  | verbatim line => exact .verbatim line
  | paragraph ls => exact .paragraph (paragraphWords_rewrap width ls).symm

end Segment

/-- **Reflow keeps the segments of a text.**  Segment by segment, a line that stands is the same
line in the same place, and a paragraph is a paragraph of the same words. -/
theorem segments_agree_reflow (width : Nat) (t : Text) :
    List.Forall₂ Segment.Agrees (segments t) (segments (reflow width t)) := by
  by_cases zero : width = 0
  · rw [reflow, if_pos zero]
    exact List.forall₂_same.mpr fun s _ => Segment.Agrees.refl s
  · rw [segments_reflow zero, List.forall₂_map_right_iff]
    exact List.forall₂_same.mpr fun s _ => Segment.agrees_rewrapped width s

end MarkdownDialects
