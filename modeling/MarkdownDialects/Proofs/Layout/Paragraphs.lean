import MarkdownDialects.Proofs.Layout.Lead
import MarkdownDialects.Proofs.Layout.Reflow

/-!
# Texts of paragraphs

A text whose lines are empty, or else start with a word that may lead, is nothing but paragraphs
with empty lines between them.  Its segments are these paragraphs and lines, so that reflow wraps
each paragraph and keeps their number and order (`paragraphs_reflow`).
-/

namespace MarkdownDialects

/-- The paragraphs of some lines: the maximal runs of lines that are not empty. -/
def paragraphs (ls : List Text) : List (List Text) :=
  (ls.splitOnP List.isEmpty).filter (!·.isEmpty)

@[simp]
theorem paragraphs_nil : paragraphs [] = [] := rfl

/-- Lines without an empty one are one paragraph, if there are any. -/
theorem paragraphs_of_shown {ls : List Text} (shown : [] ∉ ls) :
    paragraphs ls = if ls.isEmpty then [] else [ls] := by
  have clean : ∀ line ∈ ls, List.isEmpty line = false := by
    intro line member
    rw [List.isEmpty_eq_false_iff]
    rintro rfl
    exact shown member
  rw [paragraphs, List.splitOnP_eq_singleton clean]
  cases ls <;> rfl

theorem paragraphs_append_empty (ls rest : List Text) :
    paragraphs (ls ++ [] :: rest) = paragraphs ls ++ paragraphs rest := by
  unfold paragraphs
  rw [List.splitOnP_append_cons ls rest rfl, List.filter_append]

/-- A paragraph holds lines of the text, none of them empty. -/
theorem of_mem_paragraphs {ls paragraph : List Text} (member : paragraph ∈ paragraphs ls) :
    paragraph ≠ [] ∧ ∀ line ∈ paragraph, line ∈ ls ∧ line ≠ [] := by
  obtain ⟨piece, shown⟩ := List.mem_filter.mp member
  refine ⟨by simpa using shown, fun line inside => ?_⟩
  have kept := Text.of_mem_splitOnP piece line inside
  exact ⟨kept.1, List.isEmpty_eq_false_iff.mp kept.2⟩

/-- Lines all of which are empty or led. -/
def AllLed (ls : List Text) : Prop := ∀ line ∈ ls, line = [] ∨ Line.IsLed line

namespace Segment

/-- The lines of a segment that is a paragraph. -/
def paragraph? : Segment → Option (List Text)
  | .verbatim _ => none
  | .paragraph ls => some ls

@[simp]
theorem paragraph?_rewrapped (width : Nat) (s : Segment) :
    (s.rewrapped width).paragraph? = s.paragraph?.map (rewrap width) := by
  cases s <;> rfl

/-- An empty line does not flow, and a line that is led flows in front of another such line. -/
theorem isFlowing_of_isLed {line : Text} {next : Option Text} (led : Line.IsLed line)
    (after : ∀ other ∈ next, other = [] ∨ Line.IsLed other) : isFlowing line next := by
  rw [isFlowing_iff]
  refine ⟨led.isBlank_eq, led.kind_eq, led.isSetextUnderline_eq, ?_⟩
  cases next with
  | none => rfl
  | some other =>
    rcases after other rfl with rfl | led
    · rfl
    · exact led.isSetextUnderline_eq

/-- Among lines that are empty or led, those that stand are the empty ones. -/
theorem eq_nil_of_stands {line : Text} {rest : List Segment}
    (stands : isFlowing line (firstLine rest) = false) (all : AllLed (line :: rest.flatMap lines)) :
    line = [] := by
  refine (all line List.mem_cons_self).resolve_right fun led => ?_
  have flows := isFlowing_of_isLed led fun other (first : other ∈ firstLine rest) =>
    all other (List.mem_cons_of_mem line (List.mem_of_head? first))
  exact Bool.noConfusion (stands.symm.trans flows)

/-- The paragraphs among the segments of lines that are empty or led are the paragraphs of the
lines. -/
theorem Segmentation.paragraphs_flatMap {opened : Option Fence} {ss : List Segment}
    (segmented : Segmentation opened ss) (outside : opened = none)
    (all : AllLed (ss.flatMap lines)) :
    paragraphs (ss.flatMap lines) = ss.filterMap paragraph? := by
  induction segmented with
  | nil => rfl
  | fenced => exact nomatch outside
  | @standing line rest stands _ ih =>
    have others : AllLed (rest.flatMap lines) := fun other member => all other (.tail _ member)
    have empty : line = [] := eq_nil_of_stands stands all
    subst empty
    rw [List.filterMap_cons_none rfl, ← ih rfl others]
    exact paragraphs_append_empty [] (rest.flatMap lines)
  | @paragraph ls rest nonempty flowing maximal tail ih =>
    have others : AllLed (rest.flatMap lines) := fun other member =>
      all other (List.mem_append_right ls member)
    have alone : paragraphs ls = [ls] := by
      rw [paragraphs_of_shown fun empty => flowing.ne_nil empty rfl,
        if_neg (by simpa using nonempty)]
    have first : (Segment.paragraph ls).paragraph? = some ls := rfl
    rw [List.flatMap_cons, lines, List.filterMap_cons_some first, ← ih rfl others]
    -- An empty line comes next, if any does.
    cases tail with
    | nil => rw [List.flatMap_nil, List.append_nil, paragraphs_nil, alone]
    | @standing line rest stands _ =>
      have empty : line = [] := eq_nil_of_stands stands others
      subst empty
      calc paragraphs (ls ++ [] :: rest.flatMap lines)
          = paragraphs ls ++ paragraphs (rest.flatMap lines) := paragraphs_append_empty ls _
        _ = ls :: paragraphs ([] :: rest.flatMap lines) := by
          rw [alone, List.singleton_append]
          exact congrArg _ (paragraphs_append_empty [] (rest.flatMap lines)).symm
    | @paragraph more _ => exact absurd rfl (maximal more _)

end Segment

theorem paragraphs_lines {t : Text} (all : AllLed (Text.lines t)) :
    paragraphs (Text.lines t) = (segments t).filterMap Segment.paragraph? := by
  rw [← flatMap_lines_segments] at all ⊢
  exact (segmentation_segments t).paragraphs_flatMap rfl all

/-- Lines that are led read as plain text. -/
theorem readsAsPlain_of_isLed {ls : List Text} (led : ∀ line ∈ ls, Line.IsLed line) :
    readsAsPlain ls := by
  rw [readsAsPlain_iff fun line member => (led line member).isBlank_eq]
  refine Segment.allFlowing_of_plain (fun line member => ?_) rfl
  have plain := led line member
  exact ⟨plain.isBlank_eq, plain.kind_eq, plain.isSetextUnderline_eq⟩

section Wrapped

variable {width : Nat} {ls : List Text} (first : ∀ w ∈ (paragraphWords ls).head?, Wrap.canLead w)
include first

/-- Wrapped lines are led if the first word of their paragraph may lead. -/
theorem isLed_of_mem_wrapped : ∀ line ∈ wrapped width ls, Line.IsLed line := fun _ =>
  Wrap.isLed_of_mem_lines isWord_of_mem_paragraphWords first

theorem readsAsPlain_wrapped : readsAsPlain (wrapped width ls) :=
  readsAsPlain_of_isLed (isLed_of_mem_wrapped first)

/-- A paragraph whose first word may lead is never left unwrapped. -/
theorem rewrap_eq_wrapped : rewrap width ls = wrapped width ls := by
  rw [rewrap_eq, if_pos (readsAsPlain_wrapped first)]

end Wrapped

/-- A paragraph whose lines are led is wrapped into lines that are led. -/
theorem isLed_of_mem_rewrap {width : Nat} {ls : List Text} (all : ∀ line ∈ ls, Line.IsLed line) :
    ∀ line ∈ rewrap width ls, Line.IsLed line := by
  have first : ∀ w ∈ (paragraphWords ls).head?, Wrap.canLead w := by
    cases ls with
    | nil => exact fun _ none => nomatch none
    | cons line others =>
      have leads := ((Line.isLed_iff line).mp (all line List.mem_cons_self)).2
      obtain ⟨word, read, leads⟩ := (Option.any_eq_true _ _).mp leads
      intro w first
      rw [paragraphWords, List.flatMap_cons, List.head?_append, read] at first
      cases first
      exact leads
  rw [rewrap_eq_wrapped first]
  exact isLed_of_mem_wrapped first

/-- What makes every line of a text empty or led, reflow keeps if wrapping one paragraph does. -/
theorem forall_mem_lines_reflow {width : Nat} {p : Text → Prop}
    (led : ∀ line, p line → Line.IsLed line)
    (keeps : ∀ ls, (∀ line ∈ ls, p line) → ∀ line ∈ rewrap width ls, p line) {t : Text}
    (all : ∀ line ∈ Text.lines t, line = [] ∨ p line) :
    ∀ line ∈ Text.lines (reflow width t), line = [] ∨ p line := by
  rcases eq_or_ne width 0 with rfl | positive
  · rwa [reflow_zero]
  · rw [lines_reflow positive]
    intro line member
    obtain ⟨s, segment, inside⟩ := List.mem_flatMap.mp member
    cases s with
    | verbatim other =>
      have same : line = other := List.mem_singleton.mp inside
      subst same
      exact all line (flatMap_lines_segments t ▸ List.mem_flatMap.mpr ⟨_, segment, inside⟩)
    | paragraph ls =>
      have paragraph : ls ∈ paragraphs (Text.lines t) := by
        rw [paragraphs_lines fun other within => (all other within).imp_right (led other)]
        exact List.mem_filterMap.mpr ⟨_, segment, rfl⟩
      refine .inr (keeps ls (fun other within => ?_) line inside)
      obtain ⟨present, shown⟩ := (of_mem_paragraphs paragraph).2 other within
      exact (all other present).resolve_left shown

theorem allLed_reflow (width : Nat) {t : Text} (all : AllLed (Text.lines t)) :
    AllLed (Text.lines (reflow width t)) :=
  forall_mem_lines_reflow (fun _ led => led) (fun _ => isLed_of_mem_rewrap) all

/-- **Reflow wraps the paragraphs of a text whose lines are empty or led, each for itself.** -/
theorem paragraphs_reflow {width : Nat} (positive : width ≠ 0) {t : Text}
    (all : AllLed (Text.lines t)) :
    paragraphs (Text.lines (reflow width t)) = (paragraphs (Text.lines t)).map (rewrap width) := by
  rw [paragraphs_lines (allLed_reflow width all), paragraphs_lines all, segments_reflow positive,
    List.filterMap_map, List.map_filterMap]
  exact List.filterMap_congr fun s _ => Segment.paragraph?_rewrapped width s

end MarkdownDialects
