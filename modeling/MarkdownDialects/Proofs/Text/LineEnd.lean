import Mathlib.Data.List.Basic
import MarkdownDialects.Text.Basic

/-!
# Line ends

A line feed ends a line, alone or behind a carriage return.  Normalizing takes away exactly the
returns in front of line feeds: it undoes putting one in front of every line feed
(`Text.normalizeNewlines_replaceChar`), and a return that stands alone stays.
-/

namespace MarkdownDialects

namespace Text

/-- A character that does not end a line together with the one behind it is kept. -/
theorem normalizeNewlines_cons {c : Char} {t : Text} (alone : c = '\r' → t.head? ≠ some '\n') :
    normalizeNewlines (c :: t) = c :: normalizeNewlines t := by
  rw [normalizeNewlines]
  rintro rest rfl rfl
  exact alone rfl rfl

theorem replaceChar_cons (c : Char) (sub : Text) (d : Char) (t : Text) :
    replaceChar c sub (d :: t) = (if d = c then sub else [d]) ++ replaceChar c sub t :=
  List.flatMap_cons

/-- A text in which every line feed stands behind a carriage return does not begin with one. -/
theorem head?_replaceChar_feed (t : Text) : (replaceChar '\n' ['\r', '\n'] t).head? ≠ some '\n' := by
  cases t with
  | nil => exact nofun
  | cons c t =>
    rw [replaceChar_cons]
    split
    · simp
    · rename_i other
      simpa using other

/-- **Normalizing undoes what was put in front of line feeds**, whatever returns were there. -/
theorem normalizeNewlines_replaceChar (t : Text) :
    normalizeNewlines (replaceChar '\n' ['\r', '\n'] t) = t := by
  induction t with
  | nil => rfl
  | cons c t ih =>
    rw [replaceChar_cons]
    split
    · rename_i feed
      rw [feed, List.cons_append, List.singleton_append, normalizeNewlines, ih]
    · rw [List.singleton_append, normalizeNewlines_cons fun _ => head?_replaceChar_feed t, ih]

theorem normalizeNewlines_eq_self {t : Text} (single : ¬ ['\r', '\n'] <:+: t) :
    normalizeNewlines t = t := by
  induction t with
  | nil => rfl
  | cons c t ih =>
    rw [normalizeNewlines_cons, ih fun pair => single (pair.trans (List.suffix_cons c t).isInfix)]
    rintro rfl feed
    obtain ⟨rest, rfl⟩ := List.head?_eq_some_iff.mp feed
    exact single ⟨[], rest, rfl⟩

end Text

end MarkdownDialects
