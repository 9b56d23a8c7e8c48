import MarkdownDialects.Proofs.Serialize.Behind

/-!
# Items of lists

The first line of an item stands behind the mark, and the other lines stand behind as many spaces as
the mark is wide (`Serialize.listItem_unlines`).  A list below the text of an item begins on the
next line (`Serialize.join_below`).
-/

namespace MarkdownDialects

namespace Serialize

/-- A line that ends with something shown. -/
structure IsItemLine (line : Text) : Prop where
  oneLine : '\n' ∉ line
  last : ∃ front c, line = front ++ [c] ∧ Text.isBlank c = false

namespace IsItemLine

variable {line : Text}

theorem append_left {front : Text} (noFeed : '\n' ∉ front) (itemLine : IsItemLine line) :
    IsItemLine (front ++ line) where
  oneLine := by
    rw [List.mem_append, not_or]
    exact ⟨noFeed, itemLine.oneLine⟩
  last := by
    obtain ⟨before, c, rfl, shown⟩ := itemLine.last
    exact ⟨front ++ before, c, (List.append_assoc ..).symm, shown⟩

theorem ne_nil (itemLine : IsItemLine line) : line ≠ [] := by
  obtain ⟨before, c, rfl, -⟩ := itemLine.last
  exact List.concat_ne_nil c before

theorem exists_cons (itemLine : IsItemLine line) : ∃ c rest, line = c :: rest ∧ c ≠ '\n' := by
  obtain ⟨c, rest, rfl⟩ := List.exists_cons_of_ne_nil itemLine.ne_nil
  exact ⟨c, rest, rfl, fun same => itemLine.oneLine (same ▸ List.mem_cons_self)⟩

end IsItemLine

section Lines

variable {first : Text} {rest : List Text}
  (clean : ∀ line ∈ first :: rest, IsItemLine line)
include clean

theorem exists_unlines_concat :
    ∃ front c, Text.unlines (first :: rest) = front ++ [c] ∧ Text.isBlank c = false := by
  obtain ⟨lead, line, whole⟩ :=
    (List.eq_nil_or_concat' (first :: rest)).resolve_left (List.cons_ne_nil _ _)
  obtain ⟨front, c, rfl, shown⟩ := (clean line (whole ▸ List.mem_concat_self)).last
  refine ⟨Text.terminated lead ++ front, c, ?_, shown⟩
  rw [whole, Text.unlines_append (List.cons_ne_nil _ _), List.append_assoc]
  exact congrArg (Text.terminated lead ++ ·) List.intercalate_singleton

/-- What the lines of an item are put together from, without line feeds around it. -/
theorem trimEnd_dropWhile_unlines (n : Nat) :
    Text.trimEnd ((Text.unlines (first :: rest) ++ Text.rep n '\n').dropWhile (· == '\n')) =
      Text.unlines (first :: rest) := by
  obtain ⟨c, more, rfl, noFeed⟩ := (clean first List.mem_cons_self).exists_cons
  obtain ⟨front, d, whole, shown⟩ := exists_unlines_concat clean
  obtain ⟨later, start⟩ := Text.exists_unlines_cons (c :: more) rest
  have kept : (Text.unlines ((c :: more) :: rest) ++ Text.rep n '\n').dropWhile (· == '\n') =
      Text.unlines ((c :: more) :: rest) ++ Text.rep n '\n' := by
    rw [start, List.cons_append, List.cons_append]
    exact List.dropWhile_cons_of_neg (by simpa using noFeed)
  rw [kept, Text.trimEnd, Text.trimEndBy_append blank_of_mem_rep, whole]
  exact Text.trimEndBy_concat shown front

/-- **The lines of an item.**  The first stands behind the mark, the others are indented by the
width of the mark. -/
theorem listItem_unlines (mark : Text) (n : Nat) :
    listItem mark (Text.unlines (first :: rest) ++ Text.rep n '\n') =
      Text.unlines ((mark ++ first) :: rest.map (Text.rep mark.length ' ' ++ ·)) := by
  have read : Text.lines (Text.unlines (first :: rest)) = first :: rest :=
    Text.lines_unlines (List.cons_ne_nil _ _) fun line member => (clean line member).oneLine
  have indented : (rest.map fun line =>
      if line.isEmpty then [] else Text.rep mark.length ' ' ++ line) =
        rest.map (Text.rep mark.length ' ' ++ ·) :=
    List.map_congr_left fun line member => by
      rw [if_neg (by simpa using (clean line (.tail _ member)).ne_nil)]
  simp only [listItem, trimEnd_dropWhile_unlines clean n, read, indented]

end Lines

theorem IsShown.isSolid {t : Text} (shown : IsShown t) : IsSolid t where
  nonempty := by
    obtain ⟨c, rest, rfl, -⟩ := shown.first
    exact List.cons_ne_nil c rest
  head d front := by
    obtain ⟨c, rest, rfl, solid⟩ := shown.first
    exact Option.some.inj front ▸ Text.eq_false_of_shown (blank_of_isOuter c) solid
  last d final := by
    obtain ⟨front, c, rfl, solid⟩ := shown.last
    rw [List.getLast?_concat] at final
    exact Option.some.inj final ▸ Text.eq_false_of_shown (blank_of_isOuter c) solid

/-- Nothing is taken off a fragment that ends with something shown. -/
theorem seam_of_shown {out : Text} (shown : IsShown out) (n : Nat) :
    seam out n = out ++ Text.rep (min 2 n) '\n' := by
  obtain ⟨front, c, rfl, solid⟩ := shown.last
  have feeds : Text.trimEndBy (· == '\n') (front ++ [c]) = front ++ [c] :=
    Text.trimEndBy_concat (p := (· == '\n')) (isFeed_of_shown solid) front
  have spaces : Text.trimEndBy (fun c => c == ' ' || c == '\t') (front ++ [c]) = front ++ [c] :=
    Text.trimEndBy_concat (p := fun c => c == ' ' || c == '\t') (isSpace_of_shown solid) front
  simp only [seam, feeds, spaces, Nat.sub_self, ite_self, and_true, Nat.zero_max]
  split
  next none => rw [none]; simp
  next => rfl

/-- A list below the text of an item begins on the next line. -/
theorem join_below {t body : Text} (shown : IsShown t) (below : IsShown body) :
    join t ('\n' :: body ++ ['\n']) = t ++ '\n' :: body ++ ['\n'] := by
  have feeds : '\n' :: body ++ ['\n'] = Text.rep 1 '\n' ++ (body ++ ['\n']) := rfl
  rw [feeds, join_feeds (below.bare ['\n']) (by simp), seam_of_shown shown]
  simp

end Serialize

end MarkdownDialects
