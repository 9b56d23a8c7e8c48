import MarkdownDialects.Layout.Tighten
import MarkdownDialects.Proofs.Text.Words

/-!
# What tightening drops

A gap is an empty line between two items of one family.  Whether a line is a gap hangs on the
families of its two neighbours alone (`Tighten.isGap_iff`), and a dropped line is a neighbour of no
other gap: after a line that is no item, the next line stays.  So the lines that are left hold no
gap, and tightening twice is tightening once (`tighten_idempotent`).
-/

namespace MarkdownDialects

namespace Tighten

/-- The family of the line before a place, if that is an item with content. -/
def familyBefore (before : Option Text) : Option ListFamily := before.bind itemWithContent?

/-- The family of the line after a place, if that is an item. -/
def familyAfter (next : Option Text) : Option ListFamily := next.bind Line.listMarker?

theorem listMarker?_of_itemWithContent? {line : Text} {family : ListFamily}
    (item : itemWithContent? line = some family) : Line.listMarker? line = some family := by
  cases marked : Line.splitMarker? (Text.trimStart line) with
  | none =>
    rw [itemWithContent?, marked] at item
    exact nomatch item
  | some found =>
    obtain ⟨own, after⟩ := found
    rw [itemWithContent?, marked] at item
    rw [Line.listMarker?, marked]
    dsimp only at item ⊢
    split at item
    · rename_i content
      rw [Bool.and_eq_true] at content
      rw [if_pos content.1]
      exact item
    · exact nomatch item

/-- A gap lies between two items of one family. -/
theorem isGap_iff {before next : Option Text} :
    before.any (isGap · next) ↔
      ∃ family, familyBefore before = some family ∧ familyAfter next = some family := by
  cases before with
  | none => simp [familyBefore]
  | some line =>
    cases next with
    | none => cases item : itemWithContent? line <;> simp [familyBefore, familyAfter, isGap, item]
    | some other =>
      cases item : itemWithContent? line <;> simp [familyBefore, familyAfter, isGap, item]

theorem isGap_congr {before other next following : Option Text}
    (sameBefore : familyBefore before = familyBefore other)
    (sameAfter : familyAfter next = familyAfter following) :
    before.any (isGap · next) = other.any (isGap · following) := by
  rw [Bool.eq_iff_iff, isGap_iff, isGap_iff, sameBefore, sameAfter]

theorem isGap_of_familyBefore_eq_none {before : Option Text} (next : Option Text)
    (plain : familyBefore before = none) : before.any (isGap · next) = false := by
  rw [Bool.eq_false_iff]
  intro gap
  obtain ⟨family, item, _⟩ := isGap_iff.mp gap
  exact nomatch plain.symm.trans item

theorem dropGaps_cons_of_ne_nil {line : Text} (shown : line ≠ []) (before : Option Text)
    (rest : List Text) : dropGaps before (line :: rest) = line :: dropGaps (some line) rest := by
  rw [dropGaps, List.isEmpty_eq_false_iff.mpr shown]
  rfl

/-- After a line that is no item, the next line stays. -/
theorem dropGaps_cons_of_familyBefore_eq_none {before : Option Text} (line : Text)
    (rest : List Text) (plain : familyBefore before = none) :
    dropGaps before (line :: rest) = line :: dropGaps (some line) rest := by
  rw [dropGaps, isGap_of_familyBefore_eq_none rest.head? plain, Bool.and_false]
  rfl

theorem head?_dropGaps_of_familyBefore_eq_none {before : Option Text} (lines : List Text)
    (plain : familyBefore before = none) : (dropGaps before lines).head? = lines.head? := by
  cases lines with
  | nil => rfl
  | cons line rest => rw [dropGaps_cons_of_familyBefore_eq_none line rest plain]; rfl

/-- Lines that show something stay, and the last of them precedes the rest. -/
theorem dropGaps_append {front : List Text} (shown : ∀ line ∈ front, line ≠ [])
    (before : Option Text) (rest : List Text) :
    dropGaps before (front ++ rest) = front ++ dropGaps (front.getLast?.or before) rest := by
  induction front generalizing before with
  | nil => rfl
  | cons line front ih =>
    rw [List.cons_append, dropGaps_cons_of_ne_nil (shown line List.mem_cons_self),
      ih fun other member => shown other (List.mem_cons_of_mem _ member), List.getLast?_cons]
    cases front.getLast? <;> rfl

/-- The lines that are left hold no gap. -/
theorem dropGaps_dropGaps (before : Option Text) (lines : List Text) :
    dropGaps before (dropGaps before lines) = dropGaps before lines := by
  induction lines generalizing before with
  | nil => rfl
  | cons line rest ih =>
    rw [dropGaps]
    split
    · -- The dropped line stood before an item, which shows something and so stays.
      rename_i dropped
      rw [Bool.and_eq_true, List.isEmpty_iff] at dropped
      obtain ⟨rfl, gap⟩ := dropped
      obtain ⟨family, _, item⟩ := isGap_iff.mp gap
      have again := ih (some [])
      cases rest with
      | nil => exact absurd item (Option.some_ne_none family).symm
      | cons other others =>
        have shown : other ≠ [] := by
          rintro rfl
          exact absurd item (Option.some_ne_none family).symm
        rw [dropGaps_cons_of_ne_nil shown, dropGaps_cons_of_ne_nil shown] at again ⊢
        exact again
    · rename_i kept
      by_cases shown : line = []
      · subst shown
        have same : (dropGaps (some []) rest).head? = rest.head? :=
          head?_dropGaps_of_familyBefore_eq_none rest rfl
        rw [dropGaps, same, if_neg kept, ih]
      · rw [dropGaps_cons_of_ne_nil shown, ih]

end Tighten

theorem lines_tighten (t : Text) :
    Text.lines (tighten t) = Tighten.dropGaps none (Text.lines t) := by
  apply Text.lines_unlines
  · obtain ⟨first, others, whole⟩ := List.exists_cons_of_ne_nil (List.splitOn_ne_nil '\n' t)
    rw [Text.lines, whole, Tighten.dropGaps_cons_of_familyBefore_eq_none first others rfl]
    exact List.cons_ne_nil _ _
  · intro line member
    exact Text.feed_not_mem_of_mem_lines ((Tighten.dropGaps_sublist none _).mem member)

/-- **Tightening twice is tightening once.** -/
theorem tighten_idempotent (t : Text) : tighten (tighten t) = tighten t := by
  rw [tighten, lines_tighten, Tighten.dropGaps_dropGaps]
  rfl

end MarkdownDialects
