import Mathlib.Tactic.SplitIfs
import MarkdownDialects.Line.Kind
import MarkdownDialects.Proofs.Text.Letter
import MarkdownDialects.Proofs.Text.Trim

/-!
# What excludes what among lines

A line that starts an item opens and closes no fence, so it is structure whatever follows it; and
plain text starts no item.  A line that begins with a letter is plain text.
-/

namespace MarkdownDialects

namespace Fence

/-- A line whose first shown character is no mark of a fence is no fence delimiter. -/
theorem ofLine?_eq_none {line rest : Text} {c : Char} (shown : Text.trimStart line = c :: rest)
    (noTick : c ≠ '`') (noTilde : c ≠ '~') : ofLine? line = none := by
  have started : line.dropWhile Text.isBlank = c :: rest := shown
  have solid : Text.isBlank c = false := by
    have first := List.head?_dropWhile_not Text.isBlank line
    rw [started] at first
    simpa using first
  have trimmed : Text.trim line = c :: Text.trimEnd rest := by
    rw [Text.trim, Text.trimBy, Text.trimStartBy, started, Text.trimEndBy_cons solid]
  have noRun (mark : Char) (other : c ≠ mark) : runLength mark (c :: Text.trimEnd rest) = 0 := by
    rw [runLength, List.takeWhile_cons_of_neg (by simp [other]), List.length_nil]
  simp [ofLine?, trimmed, noRun _ noTick, noRun _ noTilde]

theorem closedBy_nil (fence : Fence) : fence.closedBy [] = false := rfl

end Fence

namespace Line

theorem splitMarker?_eq_none {c : Char} (fence : c = '`' ∨ c = '~') (rest : Text) :
    splitMarker? (c :: rest) = none := by
  rcases fence with rfl | rfl
  · rfl
  · rfl

theorem ofLine?_of_listMarker? {line : Text} {family : ListFamily}
    (item : listMarker? line = some family) : Fence.ofLine? line = none := by
  unfold listMarker? at item
  cases shown : Text.trimStart line with
  | nil =>
    rw [shown] at item
    exact nomatch item
  | cons c rest =>
    refine Fence.ofLine?_eq_none shown ?_ ?_
    · rintro rfl
      rw [shown, splitMarker?_eq_none (.inl rfl)] at item
      exact nomatch item
    · rintro rfl
      rw [shown, splitMarker?_eq_none (.inr rfl)] at item
      exact nomatch item

theorem listMarker?_of_plain {line : Text} (plain : kind line = .plain) :
    listMarker? line = none := by
  unfold kind at plain
  split_ifs at plain with _ _ item
  simpa [isListItem] using item

/-- What starts an item is structure of its own, whatever follows it. -/
theorem kindBefore_of_listMarker? {line : Text} {family : ListFamily}
    (item : listMarker? line = some family) (next : Option Text) :
    kindBefore line next = kind line ∧ kind line ≠ .plain ∧ kind line ≠ .fenceDelimiter := by
  have structured : kind line ≠ .plain := by
    intro plain
    exact nomatch item.symm.trans (listMarker?_of_plain plain)
  have noFence : isFenceDelimiter line = false := by
    rw [isFenceDelimiter, ofLine?_of_listMarker? item, Option.isSome_none]
  refine ⟨?_, structured, ?_⟩
  · unfold kindBefore
    split
    · rename_i plain
      exact absurd plain structured
    · rfl
  · unfold kind
    rw [noFence]
    split_ifs <;> simp_all

/-! ## Lines that begin with a letter -/

section Letter

variable {c : Char} (letter : c.isAlpha)
include letter

theorem isBlank_of_isAlpha : Text.isBlank c = false := by
  have range := isAlpha_iff.mp letter
  simp [Text.isBlank]
  omega

theorem ne_of_isAlpha {symbol : Char} (other : symbol.isAlpha = false) : c ≠ symbol := by
  rintro rfl
  exact Bool.noConfusion (letter.symm.trans other)

theorem isDigit_of_isAlpha : c.isDigit = false := by
  have range := isAlpha_iff.mp letter
  rw [Bool.eq_false_iff, Ne, isDigit_iff]
  omega

theorem trim_of_isAlpha (rest : Text) : Text.trim (c :: rest) = c :: Text.trimEnd rest := by
  have shown := isBlank_of_isAlpha letter
  rw [Text.trim, Text.trimBy, Text.trimStartBy, List.dropWhile_cons_of_neg (by simp [shown]),
    Text.trimEndBy_cons shown]

/-- A line that begins with a letter underlines nothing. -/
theorem isSetextUnderline_of_isAlpha (rest : Text) : isSetextUnderline (c :: rest) = false := by
  have noEquals : c ≠ '=' := ne_of_isAlpha letter (by decide)
  have noDash : c ≠ '-' := ne_of_isAlpha letter (by decide)
  simp [isSetextUnderline, trim_of_isAlpha letter, noEquals, noDash]

/-- **A line that begins with a letter is plain text.** -/
theorem kind_of_isAlpha (rest : Text) : kind (c :: rest) = .plain := by
  have shown := isBlank_of_isAlpha letter
  have other {symbol : Char} (none : symbol.isAlpha = false) : c ≠ symbol :=
    ne_of_isAlpha letter none
  have noDigit := isDigit_of_isAlpha letter
  have started : Text.trimStart (c :: rest) = c :: rest :=
    List.dropWhile_cons_of_neg (by simp [shown])
  have noFence : isFenceDelimiter (c :: rest) = false := by
    rw [isFenceDelimiter, Fence.ofLine?_eq_none started (other (by decide)) (other (by decide)),
      Option.isSome_none]
  have noIndent : Fence.runLength ' ' (c :: rest) = 0 := by
    rw [Fence.runLength, List.takeWhile_cons_of_neg (by simpa using other (by decide)),
      List.length_nil]
  have noHashes : Fence.runLength '#' (c :: rest) = 0 := by
    rw [Fence.runLength, List.takeWhile_cons_of_neg (by simpa using other (by decide)),
      List.length_nil]
  have noHeading : isAtxHeading (c :: rest) = false := by
    simp [isAtxHeading, noIndent, noHashes]
  have noItem : isListItem (c :: rest) = false := by
    have noDash : c ≠ '-' := other (by decide)
    have noStar : c ≠ '*' := other (by decide)
    have noPlus : c ≠ '+' := other (by decide)
    simp [isListItem, listMarker?, started, splitMarker?, noDash, noStar, noPlus, noDigit]
  have noRow : isTableRow (c :: rest) = false := by
    have noDash : c ≠ '-' := other (by decide)
    have noPipe : c ≠ '|' := other (by decide)
    have noColon : c ≠ ':' := other (by decide)
    have noSpace : c ≠ ' ' := other (by decide)
    simp [isTableRow, trim_of_isAlpha letter, noDash, noPipe, noColon, noSpace]
  have noBreak : isThematicBreak (c :: rest) = false := by
    have noDash : c ≠ '-' := other (by decide)
    have noStar : c ≠ '*' := other (by decide)
    have noLow : c ≠ '_' := other (by decide)
    simp [isThematicBreak, trim_of_isAlpha letter, noDash, noStar, noLow]
  have noQuote : isBlockquoteStart (c :: rest) = false := by
    have noAngle : c ≠ '>' := other (by decide)
    simp [isBlockquoteStart, started, noAngle]
  simp only [kind, noFence, noHeading, noItem, noRow, noBreak, noQuote, Bool.false_eq_true,
    if_false]

end Letter

end Line

end MarkdownDialects
