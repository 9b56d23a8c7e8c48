import MarkdownDialects.Text.Basic

/-!
# Letters and digits

Letters and digits are told from other characters by the ranges that their numbers lie in.
-/

namespace MarkdownDialects

section Letter

variable {c : Char}

theorem isAlpha_iff :
    c.isAlpha ↔ 65 ≤ c.toNat ∧ c.toNat ≤ 90 ∨ 97 ≤ c.toNat ∧ c.toNat ≤ 122 := by
  have upper : c.isUpper ↔ 65 ≤ c.toNat ∧ c.toNat ≤ 90 := decide_eq_true_iff
  have lower : c.isLower ↔ 97 ≤ c.toNat ∧ c.toNat ≤ 122 :=
    Bool.and_eq_true_iff.trans (and_congr decide_eq_true_iff decide_eq_true_iff)
  exact Bool.or_eq_true_iff.trans (or_congr upper lower)

theorem isDigit_iff : c.isDigit ↔ 48 ≤ c.toNat ∧ c.toNat ≤ 57 :=
  Bool.and_eq_true_iff.trans (and_congr decide_eq_true_iff decide_eq_true_iff)

theorem toNat_of_isAlphanum (alphanum : c.isAlphanum) : 48 ≤ c.toNat ∧ c.toNat ≤ 122 := by
  rcases Bool.or_eq_true_iff.mp alphanum with letter | digit
  · have range := isAlpha_iff.mp letter
    omega
  · have range := isDigit_iff.mp digit
    omega

/-- Only a letter becomes another character in upper case, and then a letter. -/
theorem eq_of_toUpper_eq {symbol : Char} (other : symbol.isAlpha = false)
    (same : c.toUpper = symbol) : c = symbol := by
  unfold Char.toUpper at same
  split at same
  · rename_i small
    have least : 97 ≤ c.toNat := small.1
    have most : c.toNat ≤ 122 := small.2
    have raised := congrArg (fun d : Char => d.val.toNat) same
    simp [UInt32.toNat_add] at raised
    have letter : symbol.isAlpha := isAlpha_iff.mpr (by omega)
    exact Bool.noConfusion (letter.symm.trans other)
  · exact same

theorem eq_of_toLower_eq {symbol : Char} (other : symbol.isAlpha = false)
    (same : c.toLower = symbol) : c = symbol := by
  unfold Char.toLower at same
  split at same
  · rename_i large
    have least : 65 ≤ c.toNat := large.1
    have most : c.toNat ≤ 90 := large.2
    have lowered := congrArg (fun d : Char => d.val.toNat) same
    simp [UInt32.toNat_add] at lowered
    have letter : symbol.isAlpha := isAlpha_iff.mpr (by omega)
    exact Bool.noConfusion (letter.symm.trans other)
  · exact same

end Letter

end MarkdownDialects
