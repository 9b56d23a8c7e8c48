import MarkdownDialects.Proofs.Layout.Locality
import MarkdownDialects.Proofs.Text.Part

/-!
# Reflow of fenced blocks

Reflow knows a fenced block by the fence that is open in front of it.  Where none is, a fence
delimiter and the lines it opens stand as they are, up to the line that closes it
(`isInfix_reflow_of_lines`).
-/

namespace MarkdownDialects

namespace Segment

theorem ofLines_append_of_not_closedBy {run : Fence} {ls : List Text}
    (stays : ∀ line ∈ ls, run.closedBy line = false) (rest : List Text) :
    ofLines (some run) (ls ++ rest) = ls.map .verbatim ++ ofLines (some run) rest := by
  induction ls with
  | nil => rfl
  | cons line ls ih =>
    rw [List.cons_append, ofLines, stays line List.mem_cons_self, if_neg Bool.false_ne_true,
      ih fun other member => stays other (.tail _ member)]
    rfl

/-- Where no fence is open, a fence delimiter and the lines up to the one that closes it stand. -/
theorem ofLines_append_fenced {front code : List Text} {opening : Text} {run : Fence}
    (closed : Fence.behindLines none front = none) (opens : Fence.ofLine? opening = some run)
    (stays : ∀ line ∈ code, run.closedBy line = false) (closing : Text) (back : List Text) :
    ofLines none (front ++ (opening :: code ++ [closing]) ++ back) =
      ofLines none front ++ (opening :: code ++ [closing]).map .verbatim ++
        ofLines (Fence.behindLine (some run) closing) back := by
  have divides := Line.divides_of_isFenceDelimiter (Line.isFenceDelimiter_of_ofLine? opens)
  have opened : Fence.behindLines none (front ++ [opening]) = some run := by
    rw [Fence.behindLines_append, closed]
    exact opens
  have split : front ++ (opening :: code ++ [closing]) ++ back =
      front ++ opening :: (code ++ closing :: back) := by simp
  rw [split, ofLines_append_of_divides divides, opened, ofLines_append_of_not_closedBy stays,
    ofLines]
  simp [Fence.behindLine]

theorem flatMap_reflowed_verbatim (width : Nat) (ls : List Text) :
    (ls.map verbatim).flatMap (reflowed width) = ls := by
  rw [List.flatMap_map]
  exact List.flatMap_singleton' ls

end Segment

/-- **Reflow keeps a fenced block**, from the line that opens it to the line that closes it, where
no other fence is open. -/
theorem isInfix_reflow_of_lines {t : Text} {front code back : List Text} {opening closing : Text}
    {run : Fence} (whole : Text.lines t = front ++ (opening :: code ++ [closing]) ++ back)
    (closed : Fence.behindLines none front = none) (opens : Fence.ofLine? opening = some run)
    (stays : ∀ line ∈ code, run.closedBy line = false) (width : Nat) :
    Text.unlines (opening :: code ++ [closing]) <:+: reflow width t := by
  have shown : opening :: code ++ [closing] ≠ [] := List.cons_ne_nil _ _
  rcases eq_or_ne width 0 with rfl | positive
  · have text : t = Text.unlines (Text.lines t) := (List.intercalate_splitOn '\n').symm
    rw [reflow_zero, text, whole]
    exact Text.isInfix_unlines shown front back
  · rw [reflow_of_ne_zero positive, segments, whole,
      Segment.ofLines_append_fenced closed opens stays, List.flatMap_append, List.flatMap_append,
      Segment.flatMap_reflowed_verbatim]
    exact Text.isInfix_unlines shown _ _

/-- A fenced block by itself is left alone. -/
theorem reflow_of_lines_fenced {t opening closing : Text} {code : List Text} {run : Fence}
    (whole : Text.lines t = opening :: code ++ [closing]) (opens : Fence.ofLine? opening = some run)
    (stays : ∀ line ∈ code, run.closedBy line = false) (width : Nat) : reflow width t = t := by
  rcases eq_or_ne width 0 with rfl | positive
  · exact reflow_zero t
  · have nothing (opened : Option Fence) : Segment.ofLines opened [] = [] := by rw [Segment.ofLines]
    have scanned : segments t = (opening :: code ++ [closing]).map .verbatim := by
      have around : Text.lines t = [] ++ (opening :: code ++ [closing]) ++ [] := by simp [whole]
      rw [segments, around, Segment.ofLines_append_fenced rfl opens stays, nothing, nothing,
        List.nil_append, List.append_nil]
    rw [reflow_of_ne_zero positive, scanned, Segment.flatMap_reflowed_verbatim, ← whole]
    exact List.intercalate_splitOn '\n'

end MarkdownDialects
