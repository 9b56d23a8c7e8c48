import Mathlib.Data.List.Infix
import MarkdownDialects.Proofs.Text.Letter
import MarkdownDialects.Proofs.Text.Trim
import MarkdownDialects.Text.Ascii

/-!
# Names of pages

Words of letters, digits, dashes and low lines with single spaces between them.  Of their
characters only the space is white space.
-/

namespace MarkdownDialects

/-- Characters of the name of a page. -/
def isNameChar (c : Char) : Bool := c.isAlphanum || c == '_' || c == '-' || c == ' '

/-- The name of a page: it begins with a letter and ends with a letter or a digit, and no two spaces
in it are neighbours. -/
structure IsPageName (name : Text) : Prop where
  first : name.head?.any Char.isAlpha
  last : name.getLast?.any Char.isAlphanum
  chars : ∀ c ∈ name, isNameChar c
  spaced : ¬ [' ', ' '] <:+: name

instance : DecidablePred IsPageName := fun name =>
  decidable_of_iff
    (name.head?.any Char.isAlpha ∧ name.getLast?.any Char.isAlphanum ∧ name.all isNameChar ∧
      ¬ [' ', ' '] <:+: name)
    ⟨fun ⟨first, last, chars, spaced⟩ => ⟨first, last, List.all_eq_true.mp chars, spaced⟩,
      fun page => ⟨page.first, page.last, List.all_eq_true.mpr page.chars, page.spaced⟩⟩

section Char

variable {c : Char}

/-- A character of a name is a space or lies in the range of the visible characters. -/
theorem toNat_of_isNameChar (named : isNameChar c) (solid : c ≠ ' ') :
    45 ≤ c.toNat ∧ c.toNat ≤ 122 := by
  simp only [isNameChar, Bool.or_eq_true, beq_iff_eq, solid, or_false] at named
  rcases named with (alphanum | rfl) | rfl
  · have range := toNat_of_isAlphanum alphanum
    omega
  · decide
  · decide

theorem isBlank_of_isNameChar (named : isNameChar c) (solid : c ≠ ' ') :
    Text.isBlank c = false := by
  have range := toNat_of_isNameChar named solid
  simp [Text.isBlank]
  omega

theorem isSpace_of_isNameChar (named : isNameChar c) (solid : c ≠ ' ') :
    Ascii.isSpace c = false := by
  have range := toNat_of_isNameChar named solid
  simp only [Ascii.isSpace, Bool.or_eq_false_iff, beq_eq_false_iff_ne, Bool.and_eq_false_iff,
    decide_eq_false_iff_not]
  exact ⟨solid, .inr (by omega)⟩

theorem isControl_of_isNameChar (named : isNameChar c) : Ascii.isControl c = false := by
  by_cases space : c = ' '
  · rw [space]
    rfl
  · have range := toNat_of_isNameChar named space
    simp only [Ascii.isControl, Bool.or_eq_false_iff, decide_eq_false_iff_not, beq_eq_false_iff_ne]
    omega

theorem ne_of_isNameChar (named : isNameChar c) {d : Char} (other : isNameChar d = false) :
    c ≠ d := by
  rintro rfl
  exact Bool.noConfusion (other.symm.trans named)

end Char

namespace IsPageName

variable {name : Text} (page : IsPageName name)
include page

theorem not_mem {c : Char} (other : isNameChar c = false) : c ∉ name := fun member =>
  Bool.noConfusion (other.symm.trans (page.chars c member))

theorem exists_cons : ∃ c rest, name = c :: rest ∧ c.isAlpha := by
  cases name with
  | nil => exact nomatch page.first
  | cons c rest => exact ⟨c, rest, rfl, page.first⟩

theorem ne_nil : name ≠ [] := by
  obtain ⟨c, rest, rfl, _⟩ := page.exists_cons
  exact List.cons_ne_nil c rest

/-- A name begins and ends with something shown. -/
theorem trimBy_eq {p : Char → Bool} (blank : ∀ c, p c → Text.isBlank c) :
    Text.trimBy p name = name := by
  have kept {c : Char} (alphanum : c.isAlphanum) : p c = false := by
    refine Text.eq_false_of_shown (blank c) (isBlank_of_isNameChar ?_ ?_)
    · simp [isNameChar, alphanum]
    · rintro rfl
      exact Bool.noConfusion alphanum
  refine Text.trimBy_eq_self_iff.mpr ⟨?_, ?_⟩
  · obtain ⟨c, rest, rfl, letter⟩ := page.exists_cons
    refine Text.trimStartBy_eq_self_iff.mpr fun d head => ?_
    obtain rfl := Option.some.inj head
    exact kept (by simp [Char.isAlphanum, letter])
  · refine Text.trimEndBy_eq_self_iff.mpr fun d final => kept ?_
    have last := page.last
    rwa [Option.mem_def.mp final] at last

theorem trim_eq : Text.trim name = name := page.trimBy_eq fun _ blank => blank

end IsPageName

end MarkdownDialects
