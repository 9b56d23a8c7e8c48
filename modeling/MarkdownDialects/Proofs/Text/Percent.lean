import MarkdownDialects.Text.Percent

/-!
# Decoded texts

Percent decoding changes nothing in a text that has no percent sign, and makes no text longer.
-/

namespace MarkdownDialects

namespace Utf8

/-- No more characters are read than there are bytes. -/
theorem length_le_of_decode? {bytes : List UInt8} {t : Text} (decoded : decode? bytes = some t) :
    t.length ≤ bytes.length := by
  fun_induction decode? bytes generalizing t with
  | case1 =>
    obtain rfl := Option.some.inj decoded
    exact Nat.le_refl _
  | case2 b rest _ ih =>
    obtain ⟨tail, behind, whole⟩ := Option.bind_eq_some_iff.mp decoded
    obtain rfl := Option.some.inj whole
    exact Nat.succ_le_succ (ih behind)
  | case3 b _ _ b₁ rest ih =>
    simp only [Option.bind_eq_bind, Option.bind_eq_some_iff] at decoded
    obtain ⟨_, _, c, _, tail, behind, whole⟩ := decoded
    obtain rfl := Option.some.inj whole
    have shorter := ih behind
    simp only [List.length_cons]
    omega
  | case5 b _ _ _ b₁ b₂ rest ih =>
    simp only [Option.bind_eq_bind, Option.bind_eq_some_iff] at decoded
    obtain ⟨_, _, _, _, c, _, tail, behind, whole⟩ := decoded
    obtain rfl := Option.some.inj whole
    have shorter := ih behind
    simp only [List.length_cons]
    omega
  | case7 b _ _ _ _ b₁ b₂ b₃ rest ih =>
    simp only [Option.bind_eq_bind, Option.bind_eq_some_iff] at decoded
    obtain ⟨_, _, _, _, _, _, c, _, tail, behind, whole⟩ := decoded
    obtain rfl := Option.some.inj whole
    have shorter := ih behind
    simp only [List.length_cons]
    omega
  | case4 | case6 | case8 | case9 => exact nomatch decoded

end Utf8

namespace Percent

/-- Without percent signs every character stands for itself. -/
theorem symbols_of_not_mem {t : Text} (absent : '%' ∉ t) : symbols t = t.map .char := by
  fun_induction symbols t with
  | case1 _ _ _ _ _ => exact absurd List.mem_cons_self absent
  | case2 _ _ _ _ => exact absurd List.mem_cons_self absent
  | case3 c rest _ ih =>
    rw [ih fun member => absent (List.mem_cons_of_mem c member)]
    rfl
  | case4 => rfl

theorem join?_map_char (t : Text) : join? [] (t.map .char) = some t := by
  induction t with
  | nil => rfl
  | cons c t ih =>
    rw [List.map_cons, join?, ih]
    rfl

/-- A text without percent signs stands for itself. -/
theorem decode_of_not_mem {t : Text} (absent : '%' ∉ t) : decode t = t := by
  rw [decode, symbols_of_not_mem absent, join?_map_char, Option.getD_some]

theorem length_symbols_le (t : Text) : (symbols t).length ≤ t.length := by
  fun_induction symbols t with
  | case1 h l rest b read ih => simp only [List.length_cons]; omega
  | case2 h l rest read ih => simp only [List.length_cons] at ih ⊢; omega
  | case3 c rest _ ih => exact Nat.succ_le_succ ih
  | case4 => exact Nat.le_refl 0

/-- No more characters are read than there are symbols. -/
theorem length_le_of_join? {run : List UInt8} {read : List Symbol} {t : Text}
    (joined : join? run read = some t) : t.length ≤ run.length + read.length := by
  fun_induction join? run read generalizing t with
  | case1 run => simpa using Utf8.length_le_of_decode? joined
  | case2 run b rest ih =>
    have shorter := ih joined
    simp only [List.length_cons] at shorter ⊢
    omega
  | case3 run c rest ih =>
    simp only [Option.bind_eq_bind, Option.bind_eq_some_iff] at joined
    obtain ⟨front, first, back, behind, whole⟩ := joined
    obtain rfl := Option.some.inj whole
    have bytes := Utf8.length_le_of_decode? first
    have shorter := ih behind
    simp only [List.length_append, List.length_cons, List.length_reverse, List.length_nil] at *
    omega

/-- Decoding makes no text longer. -/
theorem length_decode_le (t : Text) : (decode t).length ≤ t.length := by
  unfold decode
  cases joined : join? [] (symbols t) with
  | none => exact Nat.le_refl _
  | some u =>
    have read := length_le_of_join? joined
    have symbols := length_symbols_le t
    rw [List.length_nil] at read
    rw [Option.getD_some]
    omega

end Percent

end MarkdownDialects
