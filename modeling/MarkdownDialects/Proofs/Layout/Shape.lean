import MarkdownDialects.Convert.Converter
import MarkdownDialects.Proofs.Layout.Reflow
import MarkdownDialects.Proofs.Layout.Tighten
import MarkdownDialects.Proofs.Line.Kind

/-!
# Wrapping and tightening commute

Tightening is seen segment by segment: what it drops are lines that stand, and dropping them leaves
a segmentation (`Segment.Segmentation.dropGaps`), since the lines around a gap are items, which are
structure whatever follows them.  No line of a paragraph is an item, before or after it is wrapped,
so wrapping moves no gap (`Segment.dropGaps_map_rewrapped`).  It follows that the two stages that
shape an output commute and that shaping is done after one pass (`shape_stages_commute`).
-/

namespace MarkdownDialects

namespace ConversionOptions

/-- The stages of `shape` in the other order: lists are tightened before paragraphs are wrapped. -/
def shapeTightFirst (o : ConversionOptions) (t : Text) : Text :=
  let t := if o.tightenLists then tighten t else t
  match o.effectiveWrapWidth with
  | some width => reflow width t
  | none => t

end ConversionOptions

namespace Segment

open Tighten (familyBefore familyAfter)

/-- The last line of a segment. -/
def lastLine (s : Segment) : Option Text := s.lines.getLast?

/-- Whether a segment is a gap inside a list, given the lines around it. -/
def isGap (before next : Option Text) : Segment → Bool
  | .verbatim line => line.isEmpty && before.any (Tighten.isGap · next)
  | .paragraph _ => false

/-- The segments without the gaps inside lists; `before` is the line that precedes them. -/
def dropGaps : Option Text → List Segment → List Segment
  | _, [] => []
  | before, s :: rest =>
    if s.isGap before (firstLine rest) then dropGaps s.lastLine rest
    else s :: dropGaps s.lastLine rest

theorem isGap_congr (s : Segment) {before other next following : Option Text}
    (sameBefore : familyBefore before = familyBefore other)
    (sameAfter : familyAfter next = familyAfter following) :
    s.isGap before next = s.isGap other following := by
  cases s with
  | paragraph ls => rfl
  | verbatim line => rw [isGap, isGap, Tighten.isGap_congr sameBefore sameAfter]

theorem isGap_of_familyBefore_eq_none (s : Segment) {before : Option Text} (next : Option Text)
    (plain : familyBefore before = none) : s.isGap before next = false := by
  cases s with
  | paragraph ls => rfl
  | verbatim line => rw [isGap, Tighten.isGap_of_familyBefore_eq_none next plain, Bool.and_false]

theorem dropGaps_cons_of_familyBefore_eq_none {before : Option Text} (s : Segment)
    (rest : List Segment) (plain : familyBefore before = none) :
    dropGaps before (s :: rest) = s :: dropGaps s.lastLine rest := by
  rw [dropGaps, s.isGap_of_familyBefore_eq_none (firstLine rest) plain]
  rfl

theorem firstLine_dropGaps_of_familyBefore_eq_none {before : Option Text} {ss : List Segment}
    (plain : familyBefore before = none) (nonempty : ∀ s ∈ ss, s.lines ≠ []) :
    firstLine (dropGaps before ss) = firstLine ss := by
  cases ss with
  | nil => rfl
  | cons s rest =>
    obtain ⟨line, others, whole⟩ := List.exists_cons_of_ne_nil (nonempty s List.mem_cons_self)
    rw [dropGaps_cons_of_familyBefore_eq_none s rest plain]
    simp only [firstLine, List.flatMap_cons, whole, List.cons_append, List.head?_cons]

/-! ## Paragraphs hold no items -/

theorem listMarker?_of_isFlowing {line : Text} {next : Option Text}
    (flows : isFlowing line next) : Line.listMarker? line = none :=
  Line.listMarker?_of_plain ((isFlowing_iff line next).mp flows).2.1

theorem isFlowing_of_listMarker? {line : Text} {family : ListFamily}
    (item : Line.listMarker? line = some family) (next : Option Text) :
    isFlowing line next = false := by
  rw [Bool.eq_false_iff]
  intro flows
  exact nomatch (listMarker?_of_isFlowing flows).symm.trans item

theorem fenceAfter_of_listMarker? {line : Text} {family : ListFamily}
    (item : Line.listMarker? line = some family) (next : Option Text) :
    fenceAfter line next = none := by
  obtain ⟨same, _, noFence⟩ := Line.kindBefore_of_listMarker? item next
  rw [fenceAfter, same, if_neg noFence]

theorem AllFlowing.listMarker? {ls : List Text} {next : Option Text} (flowing : AllFlowing ls next)
    {line : Text} (member : line ∈ ls) : Line.listMarker? line = none := by
  obtain ⟨other, flows⟩ := flowing.isFlowing_of_mem member
  exact listMarker?_of_isFlowing flows

/-- What follows a paragraph follows no item. -/
theorem AllFlowing.familyBefore_lastLine {ls : List Text} {next : Option Text}
    (flowing : AllFlowing ls next) : familyBefore (paragraph ls).lastLine = none := by
  unfold familyBefore lastLine lines
  cases last : ls.getLast? with
  | none => rfl
  | some line =>
    rw [Option.bind_some, Option.eq_none_iff_forall_ne_some]
    intro family item
    exact nomatch (flowing.listMarker? (List.mem_of_getLast? last)).symm.trans
      (Tighten.listMarker?_of_itemWithContent? item)

/-- What precedes a paragraph precedes no item. -/
theorem AllFlowing.familyAfter_head? {ls : List Text} {next after : Option Text}
    (flowing : AllFlowing ls next) (nonempty : ls ≠ []) :
    familyAfter (ls.head?.or after) = none := by
  obtain ⟨line, rest, rfl⟩ := List.exists_cons_of_ne_nil nonempty
  exact flowing.listMarker? List.mem_cons_self

/-! ## Dropping gaps from a segmentation -/

theorem Segmentation.lines_ne_nil {opened : Option Fence} {ss : List Segment}
    (segmented : Segmentation opened ss) : ∀ s ∈ ss, s.lines ≠ [] := by
  induction segmented with
  | nil _ => exact fun s member => absurd member List.not_mem_nil
  | fenced _ ih | standing _ _ ih =>
    intro s member
    rcases List.mem_cons.mp member with rfl | member
    · exact List.cons_ne_nil _ _
    · exact ih s member
  | paragraph nonempty _ _ _ ih =>
    intro s member
    rcases List.mem_cons.mp member with rfl | member
    · exact nonempty
    · exact ih s member

theorem Segmentation.flatMap_lines_dropGaps {opened : Option Fence} {ss : List Segment}
    (segmented : Segmentation opened ss) (before : Option Text) :
    (dropGaps before ss).flatMap lines = Tighten.dropGaps before (ss.flatMap lines) := by
  induction segmented generalizing before with
  | nil _ => rfl
  | @fenced _ line rest _ ih | @standing line rest _ _ ih =>
    rw [List.flatMap_cons, lines, List.singleton_append, Tighten.dropGaps, dropGaps, isGap]
    split
    · rename_i dropped
      exact (ih (some line)).trans (if_pos dropped).symm
    · rename_i kept
      rw [List.flatMap_cons, lines, List.singleton_append]
      exact (congrArg (line :: ·) (ih (some line))).trans (if_neg kept).symm
  | @paragraph ls rest nonempty flowing _ _ ih =>
    have last : (ls.getLast?.or before) = ls.getLast? := by
      obtain ⟨line, others, rfl⟩ := List.exists_cons_of_ne_nil nonempty
      rw [List.getLast?_cons, Option.some_or]
    rw [List.flatMap_cons, lines,
      Tighten.dropGaps_append (fun line member => flowing.ne_nil member), last]
    exact congrArg (ls ++ ·) (ih ls.getLast?)

/-- **Segments without their gaps are a segmentation.**  A line before a gap is an item, which is
structure whatever follows it; any other line keeps the line that follows it. -/
theorem Segmentation.dropGaps {opened : Option Fence} {ss : List Segment}
    (segmented : Segmentation opened ss) (before : Option Text) :
    Segmentation opened (dropGaps before ss) := by
  induction segmented generalizing before with
  | nil opened => exact .nil opened
  | @fenced fence line rest _ ih =>
    rw [Segment.dropGaps]
    split
    · rename_i dropped
      obtain rfl : line = [] := List.isEmpty_iff.mp (Bool.and_eq_true_iff.mp dropped).1
      have open_ := ih (some [])
      rwa [fence.closedBy_nil] at open_
    · exact .fenced (ih (some line))
  | @standing line rest stands tail ih =>
    rw [Segment.dropGaps]
    split
    · rename_i dropped
      obtain rfl : line = [] := List.isEmpty_iff.mp (Bool.and_eq_true_iff.mp dropped).1
      exact ih (some [])
    · cases item : familyBefore (some line) with
      | none =>
        -- No gap comes next, so the line that decides what this one is stays.
        have same := firstLine_dropGaps_of_familyBefore_eq_none item tail.lines_ne_nil
        refine .standing ?_ ?_
        · rw [lastLine, lines, List.getLast?_singleton, same]
          exact stands
        · rw [lastLine, lines, List.getLast?_singleton, same]
          exact ih (some line)
      | some family =>
        -- The next line may go, but an item stands whatever follows it.
        have marked := Tighten.listMarker?_of_itemWithContent? item
        rw [fenceAfter_of_listMarker? marked] at ih
        refine .standing (isFlowing_of_listMarker? marked _) ?_
        rw [fenceAfter_of_listMarker? marked]
        exact ih (some line)
  | @paragraph ls rest nonempty flowing maximal tail ih =>
    have plain := flowing.familyBefore_lastLine
    have same := firstLine_dropGaps_of_familyBefore_eq_none plain tail.lines_ne_nil
    rw [Segment.dropGaps, isGap, if_neg Bool.false_ne_true]
    refine .paragraph nonempty (by rwa [same]) ?_ (ih _)
    intro more others continued
    cases rest with
    | nil => exact absurd continued.symm (List.cons_ne_nil _ _)
    | cons first rest =>
      rw [dropGaps_cons_of_familyBefore_eq_none first rest plain] at continued
      obtain ⟨rfl, _⟩ := List.cons.inj continued
      exact maximal more rest rfl

/-! ## Wrapping moves no gap -/

/-- Reflow neither makes nor removes an item at the front. -/
theorem Segmentation.familyAfter_firstLine_rewrapped {opened : Option Fence} {ss : List Segment}
    (width : Nat) (segmented : Segmentation opened ss) :
    familyAfter (firstLine (ss.map (rewrapped width))) = familyAfter (firstLine ss) := by
  cases segmented with
  | nil => rfl
  | fenced _ => rfl
  | standing _ _ => rfl
  | paragraph nonempty flowing _ _ =>
    have before := flowing.rewrap width nonempty
    have kept := flowing.rewrap_ne_nil width nonempty
    simp only [firstLine, List.map_cons, List.flatMap_cons, List.head?_append, lines, rewrapped]
    rw [before.familyAfter_head? kept, flowing.familyAfter_head? nonempty]

/-- **Gaps are the same before and after paragraphs are wrapped.** -/
theorem Segmentation.dropGaps_map_rewrapped {opened : Option Fence} {ss : List Segment}
    (width : Nat) (segmented : Segmentation opened ss) {before other : Option Text}
    (same : familyBefore before = familyBefore other) :
    Segment.dropGaps before (ss.map (rewrapped width)) =
      (Segment.dropGaps other ss).map (rewrapped width) := by
  induction segmented generalizing before other with
  | nil _ => rfl
  | @fenced _ line rest tail ih | @standing line rest _ tail ih =>
    have gap : (verbatim line).isGap before (firstLine (rest.map (rewrapped width))) =
        (verbatim line).isGap other (firstLine rest) :=
      isGap_congr _ same (tail.familyAfter_firstLine_rewrapped width)
    rw [List.map_cons, rewrapped, Segment.dropGaps, Segment.dropGaps, gap, ih rfl]
    split
    · rfl
    · rfl
  | @paragraph ls rest nonempty flowing _ _ ih =>
    have plain : familyBefore (Segment.paragraph (rewrap width ls)).lastLine =
        familyBefore (Segment.paragraph ls).lastLine := by
      rw [(flowing.rewrap width nonempty).familyBefore_lastLine, flowing.familyBefore_lastLine]
    rw [List.map_cons, rewrapped, Segment.dropGaps, Segment.dropGaps, ih plain]
    rfl

end Segment

theorem segments_tighten (t : Text) :
    segments (tighten t) = Segment.dropGaps none (segments t) := by
  rw [segments, Segment.ofLines_eq_iff, lines_tighten, ← flatMap_lines_segments t]
  exact ⟨(segmentation_segments t).dropGaps none,
    (segmentation_segments t).flatMap_lines_dropGaps none⟩

theorem tighten_reflow (width : Nat) (t : Text) :
    tighten (reflow width t) = reflow width (tighten t) := by
  rcases eq_or_ne width 0 with rfl | positive
  · rw [reflow_zero, reflow_zero]
  · have segmented := segmentation_segments t
    calc tighten (reflow width t)
        = Text.unlines (Tighten.dropGaps none
            (((segments t).map (Segment.rewrapped width)).flatMap Segment.lines)) := by
          rw [tighten, lines_reflow positive, List.flatMap_map]
          simp only [Segment.lines_rewrapped]
      _ = Text.unlines (((Segment.dropGaps none (segments t)).map
            (Segment.rewrapped width)).flatMap Segment.lines) := by
          rw [← (segmented.map_rewrapped width).flatMap_lines_dropGaps none,
            segmented.dropGaps_map_rewrapped width rfl]
      _ = reflow width (tighten t) := by
          rw [reflow_of_ne_zero positive, segments_tighten, List.flatMap_map]
          simp only [Segment.lines_rewrapped]

theorem Segment.rewrapped_rewrapped (width : Nat) (s : Segment) :
    (s.rewrapped width).rewrapped width = s.rewrapped width := by
  cases s with
  | verbatim line => rfl
  | paragraph ls => exact congrArg Segment.paragraph (rewrap_rewrap width ls)

theorem reflow_of_wrapped {width : Nat} {t : Text}
    (wrapped : ∀ s ∈ segments t, s.rewrapped width = s) : reflow width t = t := by
  rcases eq_or_ne width 0 with rfl | positive
  · exact reflow_zero t
  · have same : (segments t).flatMap (Segment.reflowed width) = Text.lines t := by
      rw [← flatMap_lines_segments t]
      refine List.flatMap_congr fun s member => ?_
      rw [← Segment.lines_rewrapped, wrapped s member]
    rw [reflow_of_ne_zero positive, same]
    exact List.intercalate_splitOn '\n'

/-- The paragraphs of a wrapped text are wrapped. -/
theorem rewrapped_of_mem_segments_reflow {width : Nat} (positive : width ≠ 0) {t : Text}
    {s : Segment} (member : s ∈ segments (reflow width t)) : s.rewrapped width = s := by
  rw [segments_reflow positive] at member
  obtain ⟨original, _, rfl⟩ := List.mem_map.mp member
  exact original.rewrapped_rewrapped width

namespace ConversionOptions

/-- The stages of `shape` may change places. -/
theorem shape_eq_shapeTightFirst (o : ConversionOptions) (t : Text) :
    o.shape t = o.shapeTightFirst t := by
  unfold shape shapeTightFirst
  cases o.effectiveWrapWidth with
  | none => rfl
  | some width =>
    cases o.tightenLists with
    | false => rfl
    | true => exact tighten_reflow width t

/-- A shaped text has its shape. -/
theorem shape_shape (o : ConversionOptions) (t : Text) : o.shape (o.shape t) = o.shape t := by
  unfold shape
  cases chosen : o.effectiveWrapWidth with
  | none =>
    cases o.tightenLists with
    | false => rfl
    | true => exact tighten_idempotent t
  | some width =>
    have positive : width ≠ 0 := by
      have accepted := (Option.filter_eq_some_iff.mp chosen).2
      exact Nat.pos_iff_ne_zero.mp (of_decide_eq_true accepted)
    have stays : reflow width (reflow width t) = reflow width t :=
      reflow_of_wrapped fun s member => rewrapped_of_mem_segments_reflow positive member
    cases o.tightenLists with
    | false => exact stays
    | true =>
      calc tighten (reflow width (tighten (reflow width t)))
          = tighten (tighten (reflow width (reflow width t))) := by
            rw [← tighten_reflow width (reflow width t)]
        _ = tighten (reflow width t) := by
            rw [tighten_idempotent, stays]

end ConversionOptions

/-- **The two stages that shape an output commute.**  So it does not matter in which order a
conversion runs them, and shaping an output again changes nothing. -/
theorem shape_stages_commute (width : Nat) (o : ConversionOptions) (t : Text) :
    tighten (reflow width t) = reflow width (tighten t) ∧
      o.shape t = o.shapeTightFirst t ∧ o.shape (o.shape t) = o.shape t :=
  ⟨tighten_reflow width t, o.shape_eq_shapeTightFirst t, o.shape_shape t⟩

end MarkdownDialects
