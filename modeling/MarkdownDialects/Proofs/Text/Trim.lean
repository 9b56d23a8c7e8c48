import Mathlib.Data.List.Basic
import MarkdownDialects.Text.Basic

/-!
# Trimmed ends

What trimming takes off the end of a text, given its last characters or its first one.
-/

namespace MarkdownDialects

namespace Text

variable {p : Char → Bool}

/-- Something shown is in no class of white space. -/
theorem eq_false_of_shown {c : Char} (blank : p c → isBlank c) (shown : isBlank c = false) :
    p c = false := by
  rw [Bool.eq_false_iff]
  intro inside
  exact Bool.noConfusion (shown.symm.trans (blank inside))

/-- Characters that are trimmed do not count at the end. -/
theorem trimEndBy_append {back : Text} (all : ∀ c ∈ back, p c) (front : Text) :
    trimEndBy p (front ++ back) = trimEndBy p front := by
  have reversed : ∀ c ∈ back.reverse, p c := fun c member => all c (List.mem_reverse.mp member)
  rw [trimEndBy, List.reverse_append, List.dropWhile_append_of_pos reversed]
  rfl

/-- Where something is left at the end, nothing in front of it is touched. -/
theorem trimEndBy_append_of_ne_nil {t : Text} (left : trimEndBy p t ≠ []) (front : Text) :
    trimEndBy p (front ++ t) = front ++ trimEndBy p t := by
  have some : (t.reverse.dropWhile p).isEmpty = false := by
    simpa [trimEndBy] using left
  rw [trimEndBy, List.reverse_append, List.dropWhile_append, some, if_neg Bool.false_ne_true]
  simp [trimEndBy]

theorem trimEndBy_concat {c : Char} (kept : p c = false) (front : Text) :
    trimEndBy p (front ++ [c]) = front ++ [c] := by
  rw [trimEndBy, List.reverse_concat, List.dropWhile_cons_of_neg (by simp [kept]),
    List.reverse_cons, List.reverse_reverse]

theorem trimEndBy_cons {c : Char} (kept : p c = false) (t : Text) :
    trimEndBy p (c :: t) = c :: trimEndBy p t := by
  rw [trimEndBy, List.reverse_cons, List.dropWhile_append]
  split
  · rename_i nothing
    rw [List.isEmpty_iff] at nothing
    rw [List.dropWhile_cons_of_neg (by simp [kept]), trimEndBy, nothing]
    rfl
  · rw [List.reverse_concat]
    rfl

theorem trimStartBy_eq_self_iff {t : Text} :
    trimStartBy p t = t ↔ ∀ c ∈ t.head?, p c = false := by
  cases t with
  | nil => simp
  | cons c t =>
    constructor
    · intro same d first
      cases first
      have stops := List.head?_dropWhile_not p (c :: t)
      rw [show (c :: t).dropWhile p = c :: t from same] at stops
      simpa using stops
    · intro front
      exact List.dropWhile_cons_of_neg (by simp [front c rfl])

theorem trimEndBy_eq_self_iff {t : Text} :
    trimEndBy p t = t ↔ ∀ c ∈ t.getLast?, p c = false := by
  rw [trimEndBy, List.reverse_eq_iff, ← List.head?_reverse]
  exact trimStartBy_eq_self_iff

/-- Trimming changes nothing exactly when it changes nothing at either end. -/
theorem trimBy_eq_self_iff {t : Text} :
    trimBy p t = t ↔ trimStartBy p t = t ∧ trimEndBy p t = t := by
  have shorter (s : Text) : (trimEndBy p s).length ≤ s.length := by
    rw [trimEndBy, List.length_reverse, ← @List.length_reverse _ s]
    exact (List.dropWhile_suffix p).length_le
  constructor
  · intro same
    have kept : trimStartBy p t = t := by
      refine (List.dropWhile_suffix p).eq_of_length_le ?_
      calc t.length = (trimBy p t).length := by rw [same]
        _ ≤ (trimStartBy p t).length := shorter _
    exact ⟨kept, by rwa [trimBy, kept] at same⟩
  · rintro ⟨front, back⟩
    rw [trimBy, front, back]

/-- Between two characters that are kept anything may stand. -/
theorem trimBy_of_ends {c d : Char} (first : p c = false) (last : p d = false) (t : Text) :
    trimBy p (c :: t ++ [d]) = c :: t ++ [d] := by
  refine trimBy_eq_self_iff.mpr ⟨trimStartBy_eq_self_iff.mpr fun e front => ?_, ?_⟩
  · exact Option.some.inj front ▸ first
  · exact trimEndBy_concat last (c :: t)

/-- Texts that start and end with something shown do so together, whatever stands between them. -/
theorem trimBy_intercalate {sep : Text} {parts : List Text}
    (all : ∀ part ∈ parts, part ≠ [] ∧ trimBy p part = part) :
    trimBy p (sep.intercalate parts) = sep.intercalate parts := by
  simp only [trimBy_eq_self_iff, trimStartBy_eq_self_iff, trimEndBy_eq_self_iff] at all ⊢
  induction parts with
  | nil => simp
  | cons part parts ih =>
    obtain ⟨shown, front, back⟩ := all part List.mem_cons_self
    have others := ih fun other member => all other (List.mem_cons_of_mem part member)
    cases parts with
    | nil => rw [List.intercalate_singleton]; exact ⟨front, back⟩
    | cons next parts =>
      have nonempty : sep.intercalate (next :: parts) ≠ [] := by
        obtain ⟨c, rest, rfl⟩ := List.exists_cons_of_ne_nil (all next (by simp)).1
        cases parts <;> simp
      rw [List.intercalate_cons_cons, List.append_assoc, List.head?_append_of_ne_nil _ shown,
        List.getLast?_append_of_ne_nil _ (by simp [nonempty]),
        List.getLast?_append_of_ne_nil _ nonempty]
      exact ⟨front, others.2⟩

theorem trimBy_cons_of_pos {c : Char} (dropped : p c) (t : Text) :
    trimBy p (c :: t) = trimBy p t := by
  rw [trimBy, trimStartBy, List.dropWhile_cons_of_pos dropped, trimBy]

theorem trimBy_eq_nil_of_all {t : Text} (all : t.all p) : trimBy p t = [] := by
  induction t with
  | nil => rfl
  | cons c t ih =>
    obtain ⟨dropped, others⟩ := Bool.and_eq_true_iff.mp (List.all_cons ▸ all)
    rw [trimBy_cons_of_pos dropped, ih others]

theorem trimBy_concat_of_pos {c : Char} (dropped : p c) (t : Text) :
    trimBy p (t ++ [c]) = trimBy p t := by
  rw [trimBy, trimBy, trimStartBy, trimStartBy, List.dropWhile_append]
  split
  next nothing =>
    rw [List.isEmpty_iff.mp nothing, List.dropWhile_cons_of_pos dropped]
    rfl
  next => exact trimEndBy_append (by simpa using dropped) _

/-- What is trimmed off the end. -/
theorem exists_trimEndBy_append (p : Char → Bool) (t : Text) :
    ∃ back, (∀ c ∈ back, p c) ∧ t = trimEndBy p t ++ back := by
  refine ⟨(t.reverse.takeWhile p).reverse, fun c member => ?_, ?_⟩
  · exact List.all_eq_true.mp List.all_takeWhile c (List.mem_reverse.mp member)
  · rw [trimEndBy, ← List.reverse_append, List.takeWhile_append_dropWhile, List.reverse_reverse]

theorem trimEndBy_isPrefix (t : Text) : trimEndBy p t <+: t := by
  rw [trimEndBy, ← List.reverse_suffix, List.reverse_reverse]
  exact List.dropWhile_suffix p

/-- What is trimmed off both ends. -/
theorem exists_append_trimBy_append (p : Char → Bool) (t : Text) :
    ∃ front back, (∀ c ∈ front, p c) ∧ (∀ c ∈ back, p c) ∧ t = front ++ trimBy p t ++ back := by
  obtain ⟨back, dropped, whole⟩ := exists_trimEndBy_append p (trimStartBy p t)
  refine ⟨t.takeWhile p, back, List.all_eq_true.mp List.all_takeWhile, dropped, ?_⟩
  rw [List.append_assoc, trimBy, ← whole]
  exact List.takeWhile_append_dropWhile.symm

/-- Trimming only takes something off the ends. -/
theorem trimBy_isInfix (t : Text) : trimBy p t <:+: t :=
  (trimEndBy_isPrefix _).isInfix.trans (List.dropWhile_suffix p).isInfix

variable {q : Char → Bool} (covers : ∀ c, p c → q c)
include covers

/-- What holds of all that is left, and of what is dropped, holds of the text. -/
theorem all_of_trimStartBy {t : Text} (kept : (trimStartBy p t).all q) : t.all q := by
  rw [List.all_eq_true] at kept ⊢
  intro c member
  rw [← List.takeWhile_append_dropWhile (p := p) (l := t)] at member
  rcases List.mem_append.mp member with dropped | left
  · exact covers c (List.all_eq_true.mp List.all_takeWhile c dropped)
  · exact kept c left

theorem all_of_trimEndBy {t : Text} (kept : (trimEndBy p t).all q) : t.all q := by
  rw [trimEndBy, List.all_reverse] at kept
  rw [← List.all_reverse]
  exact all_of_trimStartBy covers kept

theorem all_of_trimBy {t : Text} (kept : (trimBy p t).all q) : t.all q :=
  all_of_trimStartBy covers (all_of_trimEndBy covers kept)

omit covers in
/-- What is never dropped is still there. -/
theorem mem_trimBy_of_mem {c : Char} {t : Text} (kept : p c = false) (member : c ∈ t) :
    c ∈ trimBy p t := by
  by_contra absent
  have covers : ∀ d, p d → d != c := by
    intro d dropped
    rw [bne_iff_ne]
    rintro rfl
    exact Bool.noConfusion (dropped.symm.trans kept)
  have others : (trimBy p t).all (· != c) := by
    rw [List.all_eq_true]
    intro d inside
    rw [bne_iff_ne]
    rintro rfl
    exact absent inside
  simpa using List.all_eq_true.mp (all_of_trimBy covers others) c member

end Text

end MarkdownDialects
