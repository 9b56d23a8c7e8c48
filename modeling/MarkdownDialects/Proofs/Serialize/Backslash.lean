import Mathlib.Algebra.Ring.Parity
import Mathlib.Data.List.DropRight
import MarkdownDialects.Proofs.Serialize.Literal

/-!
# Backslashes of written text

The serializer puts backslashes in twice: before every character that marks up text, and then before
what would start a block.  The second backslash never stands behind one of the first ones, so that
taking one level of escapes away gives the text back, and every character that marks up stays behind
an odd number of backslashes (`Serialize.unescape_escape`).
-/

namespace MarkdownDialects

namespace Serialize

/-- What is written for a text: some punctuation stands behind a backslash, and everything that
marks up text does. -/
inductive Backslashed : Text → Text → Prop
  | nil : Backslashed [] []
  | escaped {c : Char} {written meant : Text} (punctuation : Ascii.isPunctuation c)
      (later : Backslashed written meant) : Backslashed ('\\' :: c :: written) (c :: meant)
  | plain {c : Char} {written meant : Text} (unmarked : isMarkup c = false)
      (later : Backslashed written meant) : Backslashed (c :: written) (c :: meant)

/-- How many backslashes a text ends with. -/
def trailingBackslashes (t : Text) : Nat := (t.rtakeWhile (· == '\\')).length

/-- Every character that marks up text stands behind an odd number of backslashes. -/
def MarksEscaped (written : Text) : Prop :=
  ∀ front c back, written = front ++ c :: back → c ∈ ['*', '_', '`', '[', ']'] →
    Odd (trailingBackslashes front)

theorem ne_backslash_of_unmarked {c : Char} (unmarked : isMarkup c = false) : c ≠ '\\' := by
  rintro rfl
  exact absurd unmarked (by decide)

theorem backslashed_escapeMarkup (t : Text) : Backslashed (escapeMarkup t) t := by
  induction t with
  | nil => exact .nil
  | cons c t ih =>
    rw [escapeMarkup_cons]
    split
    · rename_i markup
      exact .escaped (isPunctuation_of_isMarkup markup) ih
    · rename_i unmarked
      exact .plain (by simpa using unmarked) ih

namespace Backslashed

variable {written meant : Text}

theorem of_cons {c : Char} (backslashed : Backslashed (c :: written) meant) (solid : c ≠ '\\') :
    ∃ later, meant = c :: later ∧ isMarkup c = false ∧ Backslashed written later := by
  cases backslashed with
  | escaped => exact absurd rfl solid
  | plain unmarked later => exact ⟨_, rfl, unmarked, later⟩

/-- Punctuation that is not escaped yet may be escaped too. -/
theorem escape_behind {run : Text} {c : Char} (backslashed : Backslashed (run ++ c :: written) meant)
    (unescaped : '\\' ∉ run) (punctuation : Ascii.isPunctuation c) (solid : c ≠ '\\') :
    Backslashed (run ++ '\\' :: c :: written) meant := by
  induction run generalizing meant with
  | nil =>
    obtain ⟨later, rfl, -, others⟩ := backslashed.of_cons solid
    exact .escaped punctuation others
  | cons d run ih =>
    rw [List.mem_cons, not_or] at unescaped
    obtain ⟨later, rfl, unmarked, others⟩ := backslashed.of_cons (Ne.symm unescaped.1)
    exact .plain unmarked (ih others unescaped.2)

theorem escapeStart (backslashed : Backslashed written meant) :
    Backslashed (escapeStart written) meant := by
  rcases escapeStart_cases written with same | ⟨front, c, back, rfl, digits, first⟩
  · rwa [same]
  · obtain ⟨punctuation, solid, -, escaped⟩ := first
    rw [escaped]
    exact backslashed.escape_behind (backslash_not_mem_digits digits) punctuation solid

theorem unescape_eq (backslashed : Backslashed written meant) :
    Markdown.unescape written = meant := by
  induction backslashed with
  | nil => rfl
  | escaped punctuation _ ih => rw [Markdown.unescape, if_pos punctuation, ih]
  | plain unmarked _ ih =>
    rw [Markdown.unescape.eq_2 _ _ fun _ _ same _ => ne_backslash_of_unmarked unmarked same, ih]

theorem mem (backslashed : Backslashed written meant) {c : Char} (member : c ∈ written) :
    c = '\\' ∨ c ∈ meant := by
  induction backslashed with
  | nil => exact absurd member List.not_mem_nil
  | escaped _ _ ih =>
    rcases List.mem_cons.mp member with rfl | member
    · exact .inl rfl
    · rcases List.mem_cons.mp member with rfl | member
      · exact .inr List.mem_cons_self
      · exact (ih member).imp_right (.tail _)
  | plain _ _ ih =>
    rcases List.mem_cons.mp member with rfl | member
    · exact .inr List.mem_cons_self
    · exact (ih member).imp_right (.tail _)

theorem getLast?_eq (backslashed : Backslashed written meant) :
    written.getLast? = meant.getLast? := by
  induction backslashed with
  | nil => rfl
  | escaped _ _ ih | plain _ _ ih => simp [List.getLast?_cons, ih]

theorem head?_eq_or (backslashed : Backslashed written meant) :
    written.head? = meant.head? ∨ written.head? = some '\\' := by
  cases backslashed with
  | nil | plain => exact .inl rfl
  | escaped => exact .inr rfl

end Backslashed

theorem trailingBackslashes_append (front back : Text) :
    trailingBackslashes (front ++ back) =
      if trailingBackslashes back = back.length then back.length + trailingBackslashes front
      else trailingBackslashes back := by
  simp only [trailingBackslashes, List.rtakeWhile, List.length_reverse, List.reverse_append,
    List.takeWhile_append]
  split <;> simp

/-- Backslashes in front of another character are not counted. -/
theorem trailingBackslashes_cons {c : Char} (solid : c ≠ '\\') (t : Text) :
    trailingBackslashes (c :: t) = trailingBackslashes t := by
  have none : trailingBackslashes [c] = 0 := by simp [trailingBackslashes, List.rtakeWhile, solid]
  rw [← List.singleton_append, trailingBackslashes_append, none]
  split
  · rename_i all
    exact all.symm
  · rfl

/-- An escape in front leaves the parity as it is. -/
theorem odd_trailingBackslashes_escape (c : Char) (t : Text) :
    Odd (trailingBackslashes ('\\' :: c :: t)) ↔ Odd (trailingBackslashes t) := by
  have even : Even (trailingBackslashes ['\\', c]) := by
    by_cases same : c = '\\'
    · rw [same]
      decide
    · simp [trailingBackslashes, List.rtakeWhile, same]
  rw [show '\\' :: c :: t = ['\\', c] ++ t from rfl, trailingBackslashes_append]
  split
  · rename_i all
    rw [Nat.odd_add, ← all]
    exact iff_true_right even
  · rfl

theorem Backslashed.marksEscaped {written meant : Text} (backslashed : Backslashed written meant) :
    MarksEscaped written := by
  intro front c back whole mark
  have solid : c ≠ '\\' := by
    rintro rfl
    exact absurd mark (by decide)
  -- The induction goes through the escapes in front of the character, which come in twos.
  induction backslashed generalizing front with
  | nil => exact absurd whole (by simp)
  | escaped _ _ ih =>
    match front with
    | [] => exact absurd (List.cons.inj whole).1.symm solid
    | [only] =>
      obtain ⟨rfl, -⟩ := List.cons.inj whole
      decide
    | _ :: _ :: front =>
      obtain ⟨rfl, escaped⟩ := List.cons.inj whole
      obtain ⟨rfl, later⟩ := List.cons.inj escaped
      exact (odd_trailingBackslashes_escape _ front).mpr (ih front later)
  | plain unmarked _ ih =>
    match front with
    | [] =>
      obtain ⟨rfl, -⟩ := List.cons.inj whole
      simp only [isMarkup, Bool.or_eq_false_iff, beq_eq_false_iff_ne] at unmarked
      simp [unmarked] at mark
    | _ :: front =>
      obtain ⟨rfl, later⟩ := List.cons.inj whole
      rw [trailingBackslashes_cons (ne_backslash_of_unmarked unmarked)]
      exact ih front later

theorem backslashed_escape (t : Text) : Backslashed (escape t) t :=
  (backslashed_escapeMarkup t).escapeStart

/-- **Escaping loses nothing and leaves no mark.**  A level of escapes is taken away again by
reading every backslash before punctuation as that punctuation, and each character that marks up
text is behind an odd number of backslashes, so that the last of them escapes it. -/
theorem unescape_escape (t : Text) :
    Markdown.unescape (escape t) = t ∧ MarksEscaped (escape t) :=
  ⟨(backslashed_escape t).unescape_eq, (backslashed_escape t).marksEscaped⟩

/-- A number in front and a backslash of the text: both kinds of escape stand in what is written. -/
example : escape "1. \\*[_".toList = "1\\. \\\\\\*\\[\\_".toList ∧
    Markdown.unescape "1\\. \\\\\\*\\[\\_".toList = "1. \\*[_".toList := by decide

end Serialize

end MarkdownDialects
