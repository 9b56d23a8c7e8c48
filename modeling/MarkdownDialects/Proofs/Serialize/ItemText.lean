import MarkdownDialects.Proofs.Serialize.Backslash
import MarkdownDialects.Proofs.Serialize.ListItem

/-!
# Texts of items

A text without white space around it is collapsed and escaped to one line that begins and ends with
something shown (`Serialize.ItemText.isItemLine_written`).
-/

namespace MarkdownDialects

namespace Serialize

section Collapse

theorem collapse_cons (c : Char) (t : Text) :
    collapse (c :: t) =
      (if collapses c then if t.head?.any collapses then [] else [' '] else [c]) ++ collapse t := by
  cases t with
  | nil => cases same : collapses c <;> simp [collapse, same]
  | cons d t =>
    rw [collapse]
    cases same : collapses c <;> cases next : collapses d <;> simp [next]

theorem eq_space_of_mem_collapse {c : Char} {t : Text} (member : c ∈ collapse t)
    (blank : collapses c) : c = ' ' := by
  induction t with
  | nil => exact absurd member List.not_mem_nil
  | cons d t ih =>
    rw [collapse_cons, List.mem_append] at member
    rcases member with front | later
    · split at front
      · split at front
        · exact absurd front List.not_mem_nil
        · exact List.mem_singleton.mp front
      · rename_i kept
        exact absurd (List.mem_singleton.mp front ▸ blank) kept
    · exact ih later

theorem exists_collapse_concat {c : Char} (kept : collapses c = false) (t : Text) :
    ∃ front, collapse (t ++ [c]) = front ++ [c] := by
  induction t with
  | nil => exact ⟨[], by simp [collapse, kept]⟩
  | cons d t ih =>
    obtain ⟨front, whole⟩ := ih
    rw [List.cons_append, collapse_cons, whole, ← List.append_assoc]
    exact ⟨_, rfl⟩

theorem blank_of_collapses : ∀ c : Char, collapses c → Text.isBlank c := fun c blank => by
  simp only [collapses, Bool.or_eq_true, beq_iff_eq] at blank
  rcases blank with ((rfl | rfl) | rfl) | rfl <;> rfl

theorem IsShown.collapse {t : Text} (shown : IsShown t) : IsShown (collapse t) where
  first := by
    obtain ⟨c, rest, rfl, solid⟩ := shown.first
    refine ⟨c, Serialize.collapse rest, ?_, solid⟩
    rw [collapse_cons, Text.eq_false_of_shown (blank_of_collapses c) solid]
    rfl
  last := by
    obtain ⟨front, c, rfl, solid⟩ := shown.last
    obtain ⟨before, whole⟩ :=
      exists_collapse_concat (Text.eq_false_of_shown (blank_of_collapses c) solid) front
    exact ⟨before, c, whole, solid⟩

end Collapse

theorem Backslashed.isShown {written meant : Text} (backslashed : Backslashed written meant)
    (shown : IsShown meant) : IsShown written where
  first := by
    obtain ⟨c, rest, rfl, solid⟩ := shown.first
    rcases backslashed.head?_eq_or with same | backslash
    · obtain ⟨later, rfl⟩ := List.head?_eq_some_iff.mp same
      exact ⟨c, later, rfl, solid⟩
    · obtain ⟨later, rfl⟩ := List.head?_eq_some_iff.mp backslash
      exact ⟨_, later, rfl, rfl⟩
  last := by
    obtain ⟨front, c, rfl, solid⟩ := shown.last
    obtain ⟨before, rfl⟩ := List.getLast?_eq_some_iff.mp
      (backslashed.getLast?_eq.trans List.getLast?_concat)
    exact ⟨before, c, rfl, solid⟩

/-- The text of an item, without white space around it. -/
structure ItemText where
  text : Text
  trimmed : Text.trim text = text
  shown : Text.isAllBlank text = false

/-- What is written for the text of an item. -/
def ItemText.written (t : ItemText) : Text := escape (collapse t.text)

namespace ItemText

variable (t : ItemText)

theorem isShown : IsShown t.text := by
  obtain ⟨front, back⟩ := Text.trimBy_eq_self_iff.mp t.trimmed
  have nonempty : t.text ≠ [] := fun empty => absurd t.shown (by rw [empty]; decide)
  obtain ⟨c, rest, first⟩ := List.exists_cons_of_ne_nil nonempty
  obtain ⟨before, d, last⟩ := (List.eq_nil_or_concat' t.text).resolve_left nonempty
  exact
    { first := ⟨c, rest, first, Text.trimStartBy_eq_self_iff.mp front c (by rw [first]; rfl)⟩
      last := ⟨before, d, last, Text.trimEndBy_eq_self_iff.mp back d (by simp [last])⟩ }

theorem isShown_written : IsShown t.written :=
  (backslashed_escape _).isShown t.isShown.collapse

theorem isItemLine_written : IsItemLine t.written where
  oneLine member := by
    rcases (backslashed_escape _).mem member with same | inside
    · exact absurd same (by decide)
    · exact absurd (eq_space_of_mem_collapse inside rfl) (by decide)
  last := t.isShown_written.last

theorem writeText_eq : writeText t.text ⟨true, false⟩ = (t.written, ⟨false, false⟩) := by
  have ends := t.isShown.collapse
  obtain ⟨c, rest, first, solid⟩ := ends.first
  obtain ⟨front, d, last, final⟩ := ends.last
  refine writeText_of_collapse rfl ends.isSolid.nonempty ?_ ?_
  · rw [first]
    rintro ⟨⟩
    exact absurd solid (by decide)
  · rw [last, List.getLast?_concat]
    rintro ⟨⟩
    exact absurd final (by decide)

end ItemText

end Serialize

end MarkdownDialects
