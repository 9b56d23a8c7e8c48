import MarkdownDialects.Proofs.Text.Lines

/-!
# Parts of texts

A part of a text is a run of neighbouring characters.  A part on one line that begins and ends with
something shown stays a part when the text is trimmed, cut into lines or put together with others.
-/

namespace MarkdownDialects

namespace Text

/-- A text on one line that begins and ends with something shown. -/
structure IsMark (mark : Text) : Prop where
  nonempty : mark ≠ []
  head : ∀ c ∈ mark.head?, isBlank c = false
  last : ∀ c ∈ mark.getLast?, isBlank c = false
  oneLine : '\n' ∉ mark

theorem replaceChar_append (c : Char) (sub s t : Text) :
    replaceChar c sub (s ++ t) = replaceChar c sub s ++ replaceChar c sub t := List.flatMap_append

theorem replaceChar_of_not_mem {c : Char} {t : Text} (absent : c ∉ t) (sub : Text) :
    replaceChar c sub t = t := by
  have same : ∀ d ∈ t, (if d = c then sub else [d]) = [d] := fun d member =>
    if_neg (show ¬ d = c from fun equal => absent (equal ▸ member))
  rw [replaceChar, List.flatMap_congr same, List.flatMap_singleton']

section Part

variable {mark t : Text} (part : mark <:+: t)
include part

/-- A part that begins with something kept is not touched when the front is trimmed. -/
theorem isInfix_trimStartBy {p : Char → Bool} (nonempty : mark ≠ [])
    (kept : ∀ c ∈ mark.head?, p c = false) : mark <:+: trimStartBy p t := by
  obtain ⟨front, back, rfl⟩ := part
  obtain ⟨c, mark, rfl⟩ := List.exists_cons_of_ne_nil nonempty
  have stays : (c :: mark ++ back).dropWhile p = c :: mark ++ back :=
    List.dropWhile_cons_of_neg (by simp [kept c rfl])
  rw [trimStartBy, List.append_assoc, List.dropWhile_append, stays]
  split
  · exact (List.prefix_append _ _).isInfix
  · exact ⟨_, back, List.append_assoc _ _ _⟩

theorem isInfix_trimEndBy {p : Char → Bool} (nonempty : mark ≠ [])
    (kept : ∀ c ∈ mark.getLast?, p c = false) : mark <:+: trimEndBy p t := by
  rw [trimEndBy, ← List.reverse_infix, List.reverse_reverse]
  refine isInfix_trimStartBy (List.reverse_infix.mpr part) (by simpa using nonempty) ?_
  rwa [List.head?_reverse]

theorem isInfix_trimBy {p : Char → Bool} (nonempty : mark ≠ [])
    (front : ∀ c ∈ mark.head?, p c = false) (back : ∀ c ∈ mark.getLast?, p c = false) :
    mark <:+: trimBy p t :=
  isInfix_trimEndBy (isInfix_trimStartBy part nonempty front) nonempty back

theorem isInfix_replaceChar {c : Char} (absent : c ∉ mark) (sub : Text) :
    mark <:+: replaceChar c sub t := by
  obtain ⟨front, back, rfl⟩ := part
  rw [replaceChar_append, replaceChar_append, replaceChar_of_not_mem absent]
  exact List.infix_append _ _ _

/-- A part without line ends is a part of one line. -/
theorem exists_line_of_isInfix (oneLine : '\n' ∉ mark) : ∃ line ∈ lines t, mark <:+: line := by
  obtain ⟨front, back, rfl⟩ := part
  obtain ⟨before, clean, front⟩ := exists_last_line front
  obtain ⟨after, clean', back⟩ := exists_first_line back
  have alone : '\n' ∉ before ++ mark ++ after := by simp [clean, oneLine, clean']
  refine ⟨before ++ mark ++ after, ?_, List.infix_append _ _ _⟩
  rcases front with rfl | ⟨front, rfl⟩ <;> rcases back with rfl | ⟨back, rfl⟩
  · rw [lines_of_not_mem alone]
    exact List.mem_singleton_self _
  · rw [← List.append_assoc, lines_append_feed, lines_of_not_mem alone]
    exact List.mem_cons_self
  · rw [List.append_assoc, List.append_assoc, List.cons_append, lines_append_feed,
      ← List.append_assoc, lines_of_not_mem alone]
    simp
  · have split : front ++ '\n' :: before ++ mark ++ (after ++ '\n' :: back) =
        front ++ '\n' :: (before ++ mark ++ after ++ '\n' :: back) := by simp
    rw [split, lines_append_feed, lines_append_feed, lines_of_not_mem alone]
    simp

end Part

/-- What is put together is part of the whole. -/
theorem isInfix_intercalate {part sep : Text} {parts : List Text} (member : part ∈ parts) :
    part <:+: sep.intercalate parts := by
  induction parts with
  | nil => exact absurd member List.not_mem_nil
  | cons first parts ih =>
    cases parts with
    | nil =>
      rw [List.mem_singleton.mp member, List.intercalate_singleton]
    | cons next parts =>
      rw [List.intercalate_cons_cons]
      rcases List.mem_cons.mp member with rfl | later
      · rw [List.append_assoc]
        exact (List.prefix_append _ _).isInfix
      · exact (ih later).trans (List.suffix_append _ _).isInfix

theorem isInfix_of_mem_lines {t line : Text} (member : line ∈ lines t) : line <:+: t := by
  have part : line <:+: unlines (lines t) := isInfix_intercalate member
  rwa [unlines, List.intercalate_splitOn] at part

/-- Neighbouring lines are part of all lines. -/
theorem isInfix_unlines {ls : List Text} (shown : ls ≠ []) (front back : List Text) :
    unlines ls <:+: unlines (front ++ ls ++ back) := by
  have begins : unlines ls <+: unlines (ls ++ back) := by
    by_cases last : back = []
    · rw [last, List.append_nil]
    · rw [unlines_append last, terminated_eq_unlines shown, List.append_assoc]
      exact List.prefix_append _ _
  rw [List.append_assoc, unlines_append (List.append_ne_nil_of_left_ne_nil shown back)]
  exact begins.isInfix.trans (List.suffix_append _ _).isInfix

end Text

end MarkdownDialects
