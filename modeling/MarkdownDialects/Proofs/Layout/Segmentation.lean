import MarkdownDialects.Layout.Segment

/-!
# Segmentations

When a list of segments is what a scan of its own lines gives.  The relation `Segmentation` says so
segment by segment: a line inside a fence stands, a line outside a fence stands when it does not
flow, and a paragraph is a maximal run of lines that flow.  It holds of the segments of any lines
(`Segment.segmentation_ofLines`) and of nothing else (`Segment.ofLines_eq_iff`), so a pass over
the segments that keeps the relation is seen unchanged by the next scan.
-/

namespace MarkdownDialects

namespace Line

/-- Of the line after it, the kind of a line depends only on whether that is an underline. -/
theorem kindBefore_congr (line : Text) {next other : Option Text}
    (same : next.any isSetextUnderline = other.any isSetextUnderline) :
    kindBefore line next = kindBefore line other := by
  unfold kindBefore
  rw [same]

end Line

namespace Segment

theorem isFlowing_congr (line : Text) {next other : Option Text}
    (same : next.any Line.isSetextUnderline = other.any Line.isSetextUnderline) :
    isFlowing line next = isFlowing line other := by
  unfold isFlowing
  rw [Line.kindBefore_congr line same]

theorem fenceAfter_congr (line : Text) {next other : Option Text}
    (same : next.any Line.isSetextUnderline = other.any Line.isSetextUnderline) :
    fenceAfter line next = fenceAfter line other := by
  unfold fenceAfter
  rw [Line.kindBefore_congr line same]

/-- A line flows when it is shown, plain by itself, and neither is nor stands above an underline. -/
theorem isFlowing_iff (line : Text) (next : Option Text) :
    isFlowing line next ↔ Line.isBlank line = false ∧ Line.kind line = .plain ∧
      Line.isSetextUnderline line = false ∧ next.any Line.isSetextUnderline = false := by
  unfold isFlowing Line.kindBefore
  cases blank : Line.isBlank line with
  | true => simp
  | false =>
    cases Line.kind line <;> cases next.any Line.isSetextUnderline <;>
      simp [LineKind.isStructural]

/-- Every line belongs to a paragraph, given the line that comes after all of them. -/
def AllFlowing : List Text → Option Text → Prop
  | [], _ => True
  | line :: rest, next => isFlowing line (rest.head?.or next) ∧ AllFlowing rest next

/-- Lines that are plain text by themselves flow one after the other. -/
theorem allFlowing_of_plain {ls : List Text} {next : Option Text}
    (plain : ∀ line ∈ ls, Line.isBlank line = false ∧ Line.kind line = .plain ∧
      Line.isSetextUnderline line = false)
    (clear : next.any Line.isSetextUnderline = false) : AllFlowing ls next := by
  induction ls with
  | nil => trivial
  | cons line rest ih =>
    refine ⟨?_, ih fun other member => plain other (.tail _ member)⟩
    obtain ⟨shown, kind, noLine⟩ := plain line List.mem_cons_self
    refine (isFlowing_iff line _).mpr ⟨shown, kind, noLine, ?_⟩
    cases rest with
    | nil => exact clear
    | cons other _ => exact (plain other (.tail _ List.mem_cons_self)).2.2

/-- Of the line after them, lines of a paragraph ask only whether it is an underline. -/
theorem AllFlowing.congr {ls : List Text} {next other : Option Text}
    (flowing : AllFlowing ls next)
    (same : next.any Line.isSetextUnderline = other.any Line.isSetextUnderline) :
    AllFlowing ls other := by
  induction ls with
  | nil => trivial
  | cons line rest ih =>
    refine ⟨?_, ih flowing.2⟩
    cases rest with
    | nil => rw [← flowing.1]; exact isFlowing_congr line same.symm
    | cons _ _ => exact flowing.1

/-- The line after a paragraph is no underline. -/
theorem AllFlowing.clear {ls : List Text} {next : Option Text} (flowing : AllFlowing ls next)
    (nonempty : ls ≠ []) : next.any Line.isSetextUnderline = false := by
  induction ls with
  | nil => exact absurd rfl nonempty
  | cons line rest ih =>
    cases rest with
    | nil => exact ((isFlowing_iff line next).mp flowing.1).2.2.2
    | cons other others => exact ih flowing.2 (List.cons_ne_nil other others)

theorem AllFlowing.isFlowing_of_mem {ls : List Text} {next : Option Text}
    (flowing : AllFlowing ls next) {line : Text} (member : line ∈ ls) :
    ∃ other, isFlowing line other := by
  induction ls with
  | nil => exact absurd member List.not_mem_nil
  | cons first rest ih =>
    rcases List.mem_cons.mp member with rfl | member
    · exact ⟨_, flowing.1⟩
    · exact ih flowing.2 member

/-- Every line of a paragraph shows something. -/
theorem AllFlowing.ne_nil {ls : List Text} {next : Option Text} (flowing : AllFlowing ls next)
    {line : Text} (member : line ∈ ls) : line ≠ [] := by
  obtain ⟨other, flows⟩ := flowing.isFlowing_of_mem member
  rintro rfl
  exact nomatch flows

/-- The first line that segments hold. -/
def firstLine (ss : List Segment) : Option Text := (ss.flatMap lines).head?

@[simp]
theorem firstLine_ofLines (opened : Option Fence) (ls : List Text) :
    firstLine (ofLines opened ls) = ls.head? := by
  rw [firstLine, flatMap_lines_ofLines]

/-- Segments as a scan leaves them, given the fence that is open before them.  A paragraph is
maximal: no other one follows it. -/
inductive Segmentation : Option Fence → List Segment → Prop
  | nil (opened : Option Fence) : Segmentation opened []
  | fenced {fence : Fence} {line : Text} {rest : List Segment}
      (tail : Segmentation (if fence.closedBy line then none else some fence) rest) :
      Segmentation (some fence) (.verbatim line :: rest)
  | standing {line : Text} {rest : List Segment} (stands : isFlowing line (firstLine rest) = false)
      (tail : Segmentation (fenceAfter line (firstLine rest)) rest) :
      Segmentation none (.verbatim line :: rest)
  | paragraph {ls : List Text} {rest : List Segment} (nonempty : ls ≠ [])
      (flowing : AllFlowing ls (firstLine rest))
      (maximal : ∀ more others, rest ≠ .paragraph more :: others)
      (tail : Segmentation none rest) : Segmentation none (.paragraph ls :: rest)

/-- A line that flows in front of a segmentation joins its first paragraph or starts one. -/
theorem Segmentation.consFlowing {line : Text} {ss : List Segment}
    (flows : isFlowing line (firstLine ss)) (segmented : Segmentation none ss) :
    Segmentation none (consFlowing line ss) := by
  cases segmented with
  | nil =>
    exact .paragraph (List.cons_ne_nil _ _) ⟨flows, trivial⟩ (by simp) (.nil none)
  | standing stands tail =>
    exact .paragraph (List.cons_ne_nil _ _) ⟨flows, trivial⟩ (by simp) (.standing stands tail)
  | @paragraph ls rest nonempty flowing maximal tail =>
    obtain ⟨first, others, rfl⟩ := List.exists_cons_of_ne_nil nonempty
    exact .paragraph (List.cons_ne_nil _ _) ⟨flows, flowing⟩ maximal tail

/-- A scan leaves a segmentation. -/
theorem segmentation_ofLines (opened : Option Fence) (ls : List Text) :
    Segmentation opened (ofLines opened ls) := by
  induction ls generalizing opened with
  | nil => rw [ofLines]; exact .nil opened
  | cons line rest ih =>
    cases opened with
    | some fence => exact .fenced (ih _)
    | none =>
      rw [ofLines]
      split
      · rename_i flows
        exact (ih none).consFlowing (by rwa [firstLine_ofLines])
      · rename_i stands
        refine .standing ?_ ?_
        · rw [firstLine_ofLines]
          exact Bool.eq_false_iff.mpr stands
        · rw [firstLine_ofLines]
          exact ih _

/-- A run of lines that flow is scanned as one paragraph, unless another one follows. -/
theorem ofLines_append_of_allFlowing {ls after : List Text} (nonempty : ls ≠ [])
    (flowing : AllFlowing ls after.head?)
    (maximal : ∀ more others, ofLines none after ≠ .paragraph more :: others) :
    ofLines none (ls ++ after) = .paragraph ls :: ofLines none after := by
  induction ls with
  | nil => exact absurd rfl nonempty
  | cons line rest ih =>
    rw [List.cons_append, ofLines, List.head?_append, if_pos flowing.1]
    cases rest with
    | nil =>
      rw [List.nil_append]
      cases scanned : ofLines none after with
      | nil => rfl
      | cons first others =>
        cases first with
        | verbatim _ => rfl
        | paragraph more => exact absurd scanned (maximal more others)
    | cons _ _ => rw [ih (List.cons_ne_nil _ _) flowing.2]; rfl

/-- A segmentation is what a scan of its lines gives. -/
theorem Segmentation.ofLines_flatMap {opened : Option Fence} {ss : List Segment}
    (segmented : Segmentation opened ss) : ofLines opened (ss.flatMap lines) = ss := by
  induction segmented with
  | nil opened => simp [ofLines]
  | fenced _ ih => simp [lines, ofLines, ih]
  | @standing line rest stands _ ih =>
    have stays : isFlowing line (rest.flatMap lines).head? = false := stands
    rw [List.flatMap_cons, lines, List.singleton_append, ofLines, stays]
    exact congrArg (.verbatim line :: ·) ih
  | paragraph nonempty flowing maximal _ ih =>
    rw [List.flatMap_cons, lines,
      ofLines_append_of_allFlowing nonempty flowing (by rwa [ih]), ih]

/-- A line of a paragraph flows. -/
theorem Segmentation.isFlowing_of_mem {opened : Option Fence} {ss : List Segment}
    (segmented : Segmentation opened ss) {ls : List Text} (present : .paragraph ls ∈ ss)
    {line : Text} (member : line ∈ ls) : ∃ next, isFlowing line next := by
  induction segmented with
  | nil _ => exact absurd present List.not_mem_nil
  | fenced _ ih => exact ih ((List.mem_cons.mp present).resolve_left nofun)
  | standing _ _ ih => exact ih ((List.mem_cons.mp present).resolve_left nofun)
  | paragraph _ flowing _ _ ih =>
    rcases List.mem_cons.mp present with same | later
    · cases same
      exact flowing.isFlowing_of_mem member
    · exact ih later

/-- A scan gives exactly the segmentations of its lines. -/
theorem ofLines_eq_iff (opened : Option Fence) (ls : List Text) (ss : List Segment) :
    ofLines opened ls = ss ↔ Segmentation opened ss ∧ ss.flatMap lines = ls := by
  constructor
  · rintro rfl
    exact ⟨segmentation_ofLines opened ls, flatMap_lines_ofLines opened ls⟩
  · rintro ⟨segmented, rfl⟩
    exact segmented.ofLines_flatMap

end Segment

/-- The segments of a text hold its lines. -/
theorem flatMap_lines_segments (t : Text) : (segments t).flatMap Segment.lines = Text.lines t :=
  Segment.flatMap_lines_ofLines none (Text.lines t)

/-- The segments of a text are a segmentation. -/
theorem segmentation_segments (t : Text) : Segment.Segmentation none (segments t) :=
  Segment.segmentation_ofLines none (Text.lines t)

end MarkdownDialects
