import MarkdownDialects.Proofs.Layout.Fenced
import MarkdownDialects.Proofs.Line.FenceCount
import MarkdownDialects.Proofs.Line.Fenced
import MarkdownDialects.Proofs.Serialize.Fragment

/-!
# Fences around code

The fences that are written around code are longer than every run of backticks that begins a line of
it.  So whoever reads the block by its lines finds the fences where they were written: the first line
opens one, no line of the code closes it, and the last line does.  Reflow reads it so, and passes
over the block to the text behind it (`reflow_fencedCode_append`).
-/

namespace MarkdownDialects

namespace Serialize

theorem three_le_fenceLength (code : Text) : 3 ≤ fenceLength code := by
  simp only [fenceLength]
  generalize List.map _ _ = lengths
  induction lengths using List.reverseRecOn with
  | nil => exact Nat.le_refl 3
  | append_singleton lengths n ih =>
    rw [List.foldl_concat]
    exact ih.trans (Nat.le_max_left _ _)

/-- The fences around code are longer than the runs of backticks that begin its lines. -/
theorem runLength_lt_fenceLength {code line : Text} (member : line ∈ Text.lines code) :
    Fence.runLength '`' (Text.trimStart line) < fenceLength code := by
  by_cases long : 3 ≤ Fence.runLength '`' (Text.trimStart line)
  · refine le_foldl_max (List.mem_map_of_mem (f := (· + 1)) (List.mem_filter.mpr ⟨?_, ?_⟩)) 3
    · exact List.mem_map_of_mem (f := fun line => Fence.runLength '`' (Text.trimStart line)) member
    · simpa using long
  · exact (Nat.not_le.mp long).trans_le (three_le_fenceLength code)

/-- No line of code closes the fence around it. -/
theorem closedBy_fenceLength {code line : Text} (member : line ∈ Text.lines code) :
    Fence.closedBy ⟨'`', fenceLength code⟩ line = false := by
  rw [Bool.eq_false_iff]
  intro closed
  -- A line that closes begins with as many backticks as the fence, and no line of code has them.
  rw [Fence.closedBy] at closed
  split at closed
  next run found =>
    simp only [Bool.and_eq_true, beq_iff_eq, decide_eq_true_eq] at closed
    obtain ⟨⟨mark, long⟩, _⟩ := closed
    have length := (Fence.of_ofLine?_eq_some found).2.2
    rw [mark] at length
    have shorter : run.length ≤ Fence.runLength '`' (Text.trimStart line) :=
      Fence.le_runLength_iff.mpr
        ((Fence.le_runLength_iff.mp length.le).trans (Text.trimEndBy_isPrefix _))
    exact absurd (long.trans shorter) (Nat.not_le.mpr (runLength_lt_fenceLength member))
  next => exact Bool.false_ne_true closed

section Fence

variable {language : Text} (solid : ∀ c ∈ language, Text.isBlank c = false) {n : Nat}
  (long : 3 ≤ n)
include solid

theorem trim_fence : Text.trim (Text.rep n '`' ++ language) = Text.rep n '`' ++ language := by
  have kept : ∀ c ∈ Text.rep n '`' ++ language, Text.isBlank c = false := by
    refine List.forall_mem_append.mpr ⟨fun c member => ?_, solid⟩
    rw [List.eq_of_mem_replicate member]
    rfl
  rw [Text.trim, Text.trimBy_eq_self_iff, Text.trimStartBy_eq_self_iff, Text.trimEndBy_eq_self_iff]
  exact ⟨fun c first => kept c (List.mem_of_mem_head? first),
    fun c last => kept c (List.mem_of_getLast? last)⟩

include long in
/-- The line that opens a fenced block. -/
theorem ofLine?_fence (clean : '`' ∉ language) :
    Fence.ofLine? (Text.rep n '`' ++ language) = some ⟨'`', n⟩ := by
  have run : Fence.runLength '`' (Text.rep n '`' ++ language) = n := by
    have none := Fence.runLength_eq_zero clean
    rw [Fence.runLength] at none ⊢
    rw [List.takeWhile_append_of_pos (by simp), List.length_append, none]
    simp
  simp [Fence.ofLine?, trim_fence solid, run, long]

end Fence

theorem closedBy_fence {n : Nat} (long : 3 ≤ n) : Fence.closedBy ⟨'`', n⟩ (Text.rep n '`') := by
  have opens : Fence.ofLine? (Text.rep n '`' ++ []) = some ⟨'`', n⟩ :=
    ofLine?_fence (by simp) long (by simp)
  have trimmed : Text.trim (Text.rep n '`' ++ []) = Text.rep n '`' ++ [] := trim_fence (by simp)
  rw [List.append_nil] at opens trimmed
  have nothing : (Text.rep n '`').dropWhile (· == '`') = [] :=
    List.dropWhile_eq_nil_iff.mpr (by simp)
  simp [Fence.closedBy, opens, trimmed, nothing, Text.isAllBlank]

/-- The lines of a fenced block. -/
theorem lines_fencedCode {language : Text} (solid : ∀ c ∈ language, Text.isBlank c = false)
    (code : Text) :
    Text.lines (fencedCode language code) =
      (Text.rep (fenceLength code) '`' ++ language) :: Text.lines code ++
        [Text.rep (fenceLength code) '`'] := by
  have fence (m : Nat) : '\n' ∉ Text.rep m '`' := fun member =>
    absurd (List.eq_of_mem_replicate member) (by decide)
  have opening : '\n' ∉ Text.rep (fenceLength code) '`' ++ language := by
    intro member
    rcases List.mem_append.mp member with inside | inside
    · exact fence _ inside
    · exact Bool.noConfusion (solid _ inside)
  have split : fencedCode language code = (Text.rep (fenceLength code) '`' ++ language) ++
      '\n' :: (code ++ '\n' :: Text.rep (fenceLength code) '`') := by
    simp [fencedCode]
  rw [split, Text.lines_append_feed, Text.lines_append_feed, Text.lines_of_not_mem opening,
    Text.lines_of_not_mem (fence _)]
  rfl

/-- A fenced block closes the fence that it opens. -/
theorem behind_fencedCode {language : Text} (solid : ∀ c ∈ language, Text.isBlank c = false)
    (clean : '`' ∉ language) (code : Text) :
    Fence.behind none (fencedCode language code) = none := by
  have long := three_le_fenceLength code
  have opens : Fence.behindLine none (Text.rep (fenceLength code) '`' ++ language) =
      some ⟨'`', fenceLength code⟩ := by
    rw [Fence.behindLine_none, ofLine?_fence solid long clean]
  have stays : Fence.behindLines (some ⟨'`', fenceLength code⟩) (Text.lines code) =
      some ⟨'`', fenceLength code⟩ :=
    Fence.behindLines_of_not_closedBy fun line member => closedBy_fenceLength member
  have opened : Fence.behindLines none
      ((Text.rep (fenceLength code) '`' ++ language) :: Text.lines code) =
        some ⟨'`', fenceLength code⟩ := by
    rw [Fence.behindLines_cons, opens, stays]
  have closes : Fence.behindLine (some ⟨'`', fenceLength code⟩) (Text.rep (fenceLength code) '`') =
      none := by rw [Fence.behindLine, closedBy_fence long, if_pos rfl]
  rw [Fence.behind, lines_fencedCode solid, Fence.behindLines_append, opened,
    Fence.behindLines_cons, closes]
  rfl

/-- **Code between fences is read as it was written.**  Its first line opens a fence, which no line
of the code closes and the last line does, whatever stands in the code; so reflow keeps the block
and goes on with the text behind it. -/
theorem reflow_fencedCode_append {language : Text} (solid : ∀ c ∈ language, Text.isBlank c = false)
    (clean : '`' ∉ language) (code : Text) :
    let fence : Fence := ⟨'`', fenceLength code⟩
    let opening := Text.rep fence.length '`' ++ language
    let closing := Text.rep fence.length '`'
    Text.lines (fencedCode language code) = opening :: Text.lines code ++ [closing] ∧
      Fence.ofLine? opening = some fence ∧
      (∀ line ∈ Text.lines code, fence.closedBy line = false) ∧ fence.closedBy closing ∧
      ∀ width t, reflow width (fencedCode language code ++ ['\n', '\n'] ++ t) =
        fencedCode language code ++ ['\n', '\n'] ++ reflow width t := by
  intro fence opening closing
  have long := three_le_fenceLength code
  have lines := lines_fencedCode solid code
  have opens : Fence.ofLine? opening = some fence := ofLine?_fence solid long clean
  have stays : ∀ line ∈ Text.lines code, fence.closedBy line = false :=
    fun line member => closedBy_fenceLength member
  refine ⟨lines, opens, stays, closedBy_fence long, fun width t => ?_⟩
  have closed : Segment.openBehind none (Text.lines (fencedCode language code)) = none :=
    (Segment.openBehind_eq none _).trans (behind_fencedCode solid clean code)
  rw [reflow_append_empty_line width closed, reflow_of_lines_fenced lines opens stays]

/-- Code with longer fences in it, indented, with a language and of the other kind, in front of a
paragraph. -/
theorem reflow_fencedCode_append_of_fences :
    let code := "~~~\n  ````` x\n```\n".toList
    (∀ c ∈ "c++".toList, Text.isBlank c = false) ∧ '`' ∉ "c++".toList ∧
      reflow 8 (fencedCode "c++".toList code ++ ['\n', '\n'] ++ "one two three".toList) =
        fencedCode "c++".toList code ++ ['\n', '\n'] ++ "one two\nthree".toList := by
  intro code
  have solid : ∀ c ∈ "c++".toList, Text.isBlank c = false := by simp [Text.isBlank]
  have clean : '`' ∉ "c++".toList := by decide
  have wrapped : reflow 8 "one two three".toList = "one two\nthree".toList := by decide
  refine ⟨solid, clean, ?_⟩
  rw [(reflow_fencedCode_append solid clean code).2.2.2.2, wrapped]

end Serialize

end MarkdownDialects
