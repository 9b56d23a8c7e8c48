import MarkdownDialects.Proofs.Layout.Gap
import MarkdownDialects.Proofs.Line.OpenFence

/-!
# Gaps in fenced blocks

Tightening looks at three neighbouring lines and knows no fences.  It takes no fence away and opens
none, since an empty line is no fence delimiter, so what it leaves is fenced in the same places; and
neither the line that opens a fence nor the line that closes it is an item, so a gap in a fenced
block has both its neighbours in there.  So each fenced block is tightened like a text of its own
(`fencedBlocks_tighten`), and code that shows a loose list does not stay as it is
(`fencedBlocks_tighten_of_loose_list`).
-/

namespace MarkdownDialects

namespace Fence

/-- The fenced blocks among some lines, each from the line that opens its fence to the line that
closes it, or to the end if no line does.  Where a fence is open before the lines, the first block is
what they add to the block of that fence. -/
def blocks : Option Fence → List Text → List (List Text)
  | none, [] => []
  | some _, [] => [[]]
  | opened, line :: rest =>
    match opened, behindLine opened line with
    | none, none => blocks none rest
    | some _, none => [line] :: blocks none rest
    | _, some fence => (blocks (some fence) rest).modifyHead (line :: ·)

end Fence

/-- The fenced blocks of a text, with their fences. -/
def fencedBlocks (t : Text) : List Text := (Fence.blocks none (Text.lines t)).map Text.unlines

namespace Fence

open Tighten (dropGaps)

theorem behindLine_nil (opened : Option Fence) : behindLine opened [] = opened := by
  cases opened <;> rfl

section Cons

variable {opened : Option Fence} {fence : Fence} {line : Text} (rest : List Text)

theorem blocks_cons_of_outside (outside : behindLine none line = none) :
    blocks none (line :: rest) = blocks none rest := by
  simp only [blocks, outside]

theorem blocks_cons_of_closed (closed : behindLine (some fence) line = none) :
    blocks (some fence) (line :: rest) = [line] :: blocks none rest := by
  simp only [blocks, closed]

theorem blocks_cons_of_open (isOpen : behindLine opened line = some fence) :
    blocks opened (line :: rest) = (blocks (some fence) rest).modifyHead (line :: ·) := by
  cases opened <;> simp only [blocks, isOpen]

end Cons

/-- The block of an open fence goes on with the line that comes next. -/
theorem exists_blocks_eq_cons (fence : Fence) (ls : List Text) :
    ∃ block others, blocks (some fence) ls = block :: others ∧ block.head? = ls.head? := by
  induction ls generalizing fence with
  | nil => exact ⟨[], [], rfl, rfl⟩
  | cons line rest ih =>
    cases behind : behindLine (some fence) line with
    | none => exact ⟨[line], blocks none rest, blocks_cons_of_closed rest behind, rfl⟩
    | some fence =>
      obtain ⟨block, others, running, _⟩ := ih fence
      refine ⟨line :: block, others, ?_, rfl⟩
      rw [blocks_cons_of_open rest behind, running]
      rfl

/-- Blocks without their gaps.  The line before an open block may be an item of it. -/
def withoutGaps : Option Fence → Option Text → List (List Text) → List (List Text)
  | none, _, found => found.map (dropGaps none)
  | some _, before, block :: others => dropGaps before block :: others.map (dropGaps none)
  | some _, _, [] => []

/-- **Gaps are dropped block by block.** -/
theorem blocks_dropGaps (opened : Option Fence) (before : Option Text) (ls : List Text) :
    blocks opened (dropGaps before ls) = withoutGaps opened before (blocks opened ls) := by
  induction ls generalizing opened before with
  | nil => cases opened <;> rfl
  | cons line rest ih =>
    by_cases empty : line = []
    · subst empty
      cases opened with
      | none =>
        -- Outside the blocks an empty line does not count, whether it goes or stays.
        rw [blocks_cons_of_outside rest (behindLine_nil none), dropGaps]
        split
        · exact ih none _
        · rw [blocks_cons_of_outside _ (behindLine_nil none)]
          exact ih none _
      | some fence =>
        obtain ⟨block, others, running, same⟩ := exists_blocks_eq_cons fence rest
        have later := ih (some fence) (some [])
        rw [running] at later
        rw [blocks_cons_of_open rest (behindLine_nil _), running, List.modifyHead_cons, withoutGaps,
          dropGaps, dropGaps, same]
        split
        · exact later
        · rw [blocks_cons_of_open _ (behindLine_nil _), later]
          rfl
    · have kept (before : Option Text) (ls : List Text) :
          dropGaps before (line :: ls) = line :: dropGaps (some line) ls :=
        Tighten.dropGaps_cons_of_ne_nil empty before ls
      rw [kept]
      cases behind : behindLine opened line with
      | none =>
        cases opened with
        | none =>
          rw [blocks_cons_of_outside _ behind, blocks_cons_of_outside _ behind]
          exact ih none _
        | some fence =>
          rw [blocks_cons_of_closed _ behind, blocks_cons_of_closed _ behind, ih, withoutGaps,
            withoutGaps, kept]
          rfl
      | some fence =>
        obtain ⟨block, others, running, _⟩ := exists_blocks_eq_cons fence rest
        have later := ih (some fence) (some line)
        rw [running] at later
        rw [blocks_cons_of_open _ behind, blocks_cons_of_open _ behind, later, running]
        cases opened <;> simp only [withoutGaps, kept, List.modifyHead_cons, List.map_cons]

theorem flatten_blocks_sublist (opened : Option Fence) (ls : List Text) :
    (blocks opened ls).flatten.Sublist ls := by
  induction ls generalizing opened with
  | nil => cases opened <;> exact List.Sublist.refl _
  | cons line rest ih =>
    cases behind : behindLine opened line with
    | none =>
      cases opened with
      | none =>
        rw [blocks_cons_of_outside rest behind]
        exact (ih none).cons line
      | some fence =>
        rw [blocks_cons_of_closed rest behind]
        exact (ih none).cons_cons line
    | some fence =>
      obtain ⟨block, others, running, _⟩ := exists_blocks_eq_cons fence rest
      have inside := ih (some fence)
      rw [blocks_cons_of_open rest behind]
      rw [running] at inside ⊢
      exact inside.cons_cons line

end Fence

theorem tighten_unlines {ls : List Text} (clean : ∀ line ∈ ls, '\n' ∉ line) :
    tighten (Text.unlines ls) = Text.unlines (Tighten.dropGaps none ls) := by
  by_cases nonempty : ls = []
  · rw [nonempty]
    rfl
  · rw [tighten, Text.lines_unlines nonempty clean]

theorem tighten_eq_self_iff (t : Text) :
    tighten t = t ↔ ∀ place, ¬ Tighten.IsGapAt (Text.lines t) place := by
  have whole (s : Text) : Text.unlines (Text.lines s) = s := List.intercalate_splitOn '\n'
  rw [← Tighten.withoutGaps_eq_self_iff, ← Tighten.dropGaps_eq_withoutGaps, ← lines_tighten]
  exact ⟨congrArg Text.lines, fun same => by rw [← whole (tighten t), same, whole]⟩

/-- **Tightening takes each fenced block for a text of its own.**  So the fenced blocks of a text
stay as they are exactly when there is no gap in any of them. -/
theorem fencedBlocks_tighten (t : Text) :
    fencedBlocks (tighten t) = (fencedBlocks t).map tighten ∧
      (fencedBlocks (tighten t) = fencedBlocks t ↔
        ∀ block ∈ fencedBlocks t, ∀ place, ¬ Tighten.IsGapAt (Text.lines block) place) := by
  have each : fencedBlocks (tighten t) = (fencedBlocks t).map tighten := by
    rw [fencedBlocks, fencedBlocks, lines_tighten, Fence.blocks_dropGaps, Fence.withoutGaps,
      List.map_map, List.map_map]
    refine List.map_congr_left fun block member => (tighten_unlines fun line inside => ?_).symm
    exact Text.feed_not_mem_of_mem_lines
      ((Fence.flatten_blocks_sublist none _).mem (List.mem_flatten_of_mem member inside))
  have fixed : (fencedBlocks t).map tighten = fencedBlocks t ↔
      ∀ block ∈ fencedBlocks t, tighten block = block := by
    simpa using List.map_inj_left (l := fencedBlocks t) (f := tighten) (g := id)
  refine ⟨each, ?_⟩
  rw [each, fixed]
  exact forall₂_congr fun block _ => tighten_eq_self_iff block

/-- **Code that shows a loose list is tightened.** -/
theorem fencedBlocks_tighten_of_loose_list :
    let t := "```\n- a\n\n- b\n```".toList
    fencedBlocks t = [t] ∧ fencedBlocks (tighten t) = ["```\n- a\n- b\n```".toList] ∧
      fencedBlocks (tighten t) ≠ fencedBlocks t := by
  decide

/-- A longer fence with a shorter one in it, an item above a closed block, and a block that is never
closed. -/
example :
    fencedBlocks "````\n```\n\n````\n- a\n\n~~~ text\n```\n- b\n\n- c".toList =
      ["````\n```\n\n````".toList, "~~~ text\n```\n- b\n\n- c".toList] := by decide

end MarkdownDialects
