import Mathlib.Data.List.TakeWhile
import MarkdownDialects.Proofs.Text.Words

/-!
# Lines

How the lines of a text follow from those of its parts.
-/

namespace MarkdownDialects

namespace Text

/-- A text is one line, or a line and what follows its line feed. -/
theorem exists_first_line (t : Text) :
    ∃ line, '\n' ∉ line ∧ (line = t ∨ ∃ rest, line ++ '\n' :: rest = t) := by
  by_cases feed : '\n' ∈ t
  · obtain ⟨line, rest, whole, clean⟩ := List.eq_append_cons_of_mem feed
    exact ⟨line, clean, .inr ⟨rest, whole.symm⟩⟩
  · exact ⟨t, feed, .inl rfl⟩

/-- A text is one line, or what precedes a line feed and a line. -/
theorem exists_last_line (t : Text) :
    ∃ line, '\n' ∉ line ∧ (line = t ∨ ∃ front, front ++ '\n' :: line = t) := by
  obtain ⟨line, clean, whole⟩ := exists_first_line t.reverse
  have clean : '\n' ∉ line.reverse := fun member => clean (List.mem_reverse.mp member)
  refine ⟨line.reverse, clean, ?_⟩
  rcases whole with whole | ⟨rest, whole⟩
  · exact .inl (List.reverse_eq_iff.mpr whole)
  · refine .inr ⟨rest.reverse, ?_⟩
    rw [← List.reverse_reverse t, ← whole, List.reverse_append, List.reverse_cons,
      List.append_assoc, List.singleton_append]

theorem lines_of_not_mem {line : Text} (clean : '\n' ∉ line) : lines line = [line] :=
  List.splitOnP_eq_singleton fun c member => by
    simpa using fun same : c = '\n' => clean (same ▸ member)

/-- The lines before a line feed and the lines behind it. -/
theorem lines_append_feed (front rest : Text) :
    lines (front ++ '\n' :: rest) = lines front ++ lines rest :=
  List.splitOnP_append_cons front rest (by decide)

theorem lines_cons_feed (rest : Text) : lines ('\n' :: rest) = [] :: lines rest :=
  lines_append_feed [] rest

theorem forall_bne_of_not_mem {c : Char} {t : Text} (absent : c ∉ t) : ∀ d ∈ t, (d != c) = true :=
  fun d member => by simpa using fun same : d = c => absent (same ▸ member)

/-- The first line of a text is what precedes its first line feed. -/
theorem exists_lines_eq_cons (t : Text) : ∃ ls, lines t = t.takeWhile (· != '\n') :: ls := by
  obtain ⟨line, clean, whole⟩ := exists_first_line t
  have all := forall_bne_of_not_mem clean
  rcases whole with rfl | ⟨rest, rfl⟩
  · exact ⟨[], by rw [lines_of_not_mem clean, List.takeWhile_eq_self_iff.mpr all]⟩
  · refine ⟨lines rest, ?_⟩
    rw [lines_append_feed, lines_of_not_mem clean, List.takeWhile_append_of_pos all,
      List.takeWhile_cons_of_neg (by decide), List.append_nil]
    rfl

/-- What is put in front of a text without a line feed belongs to its first line. -/
theorem lines_append_of_not_mem {front t line : Text} {ls : List Text} (clean : '\n' ∉ front)
    (read : lines t = line :: ls) : lines (front ++ t) = (front ++ line) :: ls := by
  obtain ⟨first, alone, rfl | ⟨rest, rfl⟩⟩ := exists_first_line t
  · rw [lines_of_not_mem alone] at read
    obtain ⟨rfl, rfl⟩ := List.cons.inj read
    exact lines_of_not_mem (by simp [clean, alone])
  · rw [lines_append_feed, lines_of_not_mem alone] at read
    obtain ⟨rfl, rfl⟩ := List.cons.inj read
    rw [← List.append_assoc, lines_append_feed, lines_of_not_mem (by simp [clean, alone])]
    rfl

/-- What follows a text at the end of a line adds its further lines. -/
theorem lines_append_of_lines_eq_cons {t : Text} {ls : List Text} (front : Text)
    (read : lines t = [] :: ls) : lines (front ++ t) = lines front ++ ls := by
  obtain ⟨line, alone, rfl | ⟨rest, rfl⟩⟩ := exists_first_line t
  · rw [lines_of_not_mem alone] at read
    obtain ⟨rfl, rfl⟩ := List.cons.inj read
    rw [List.append_nil, List.append_nil]
  · rw [lines_append_feed, lines_of_not_mem alone] at read
    obtain ⟨rfl, rfl⟩ := List.cons.inj read
    exact lines_append_feed front rest

/-- Lines each of which ends with a line feed, in front of other lines. -/
theorem unlines_append {ls ms : List Text} (nonempty : ms ≠ []) :
    unlines (ls ++ ms) = terminated ls ++ unlines ms := by
  induction ls with
  | nil => rfl
  | cons line ls ih =>
    obtain ⟨next, others, shown⟩ := List.exists_cons_of_ne_nil
      (List.append_ne_nil_of_right_ne_nil ls nonempty)
    rw [List.cons_append, shown, unlines_cons_cons, ← shown, ih, terminated_cons, List.append_assoc,
      List.cons_append]

/-- Lines put together begin as the first of them does. -/
theorem exists_unlines_cons (line : Text) (ls : List Text) :
    ∃ back, unlines (line :: ls) = line ++ back := by
  cases ls with
  | nil => exact ⟨[], by rw [List.append_nil]; exact List.intercalate_singleton⟩
  | cons next ls => exact ⟨'\n' :: unlines (next :: ls), unlines_cons_cons ..⟩

/-- An empty line between lines is two line feeds between their texts. -/
theorem unlines_append_empty_line {ls ms : List Text} (front : ls ≠ []) (back : ms ≠ []) :
    unlines (ls ++ [] :: ms) = unlines ls ++ ['\n', '\n'] ++ unlines ms := by
  obtain ⟨next, others, rfl⟩ := List.exists_cons_of_ne_nil back
  rw [unlines_append (List.cons_ne_nil _ _), unlines_cons_cons, terminated_eq_unlines front]
  simp

/-- Lines with a line feed behind each of them are read back. -/
theorem lines_terminated {ls : List Text} (clean : ∀ line ∈ ls, '\n' ∉ line) (rest : Text) :
    lines (terminated ls ++ '\n' :: rest) = ls ++ [] :: lines rest := by
  induction ls with
  | nil => exact lines_append_feed [] rest
  | cons line ls ih =>
    rw [terminated_cons, List.append_assoc, List.cons_append, lines_append_feed,
      lines_of_not_mem (clean line List.mem_cons_self),
      ih fun other member => clean other (.tail _ member)]
    rfl

/-- Lines that are shown end at the first empty line behind them, so they can be told apart. -/
theorem eq_of_terminated_eq {ls ms : List Text} {rest more : Text}
    (clean : ∀ line ∈ ls, '\n' ∉ line ∧ line ≠ []) (others : ∀ line ∈ ms, '\n' ∉ line ∧ line ≠ [])
    (same : terminated ls ++ '\n' :: rest = terminated ms ++ '\n' :: more) : ls = ms := by
  have read := congrArg lines same
  rw [lines_terminated fun line member => (clean line member).1,
    lines_terminated fun line member => (others line member).1] at read
  have front {ls : List Text} (shown : ∀ line ∈ ls, '\n' ∉ line ∧ line ≠ []) (after : List Text) :
      (ls ++ [] :: after).takeWhile (!·.isEmpty) = ls := by
    rw [List.takeWhile_append_of_pos fun line member => by simpa using (shown line member).2]
    simp
  rw [← front clean (lines rest), read, front others]

end Text

end MarkdownDialects
