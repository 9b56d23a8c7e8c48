import Mathlib.Data.List.Infix
import MarkdownDialects.Text.Basic

/-!
# Marks in a text

What it takes to find a mark at the front of a text, at its end, or at its first place
(`Text.cutAt?_eq_some_iff`).  Marks of this library begin with a character that they do not repeat,
so a mark is never found across the seam between a text and another mark
(`Text.isPrefix_of_isPrefix_append_cons`).
-/

namespace MarkdownDialects

namespace Text

theorem after?_eq_some_iff {front t rest : Text} : after? front t = some rest ↔ front ++ rest = t :=
  List.isPrefixOf?_eq_some_iff_append_eq

@[simp]
theorem after?_append (front rest : Text) : after? front (front ++ rest) = some rest :=
  after?_eq_some_iff.mpr rfl

theorem after?_eq_none_iff {front t : Text} : after? front t = none ↔ ¬ front <+: t := by
  rw [Option.eq_none_iff_forall_ne_some]
  constructor
  · rintro missing ⟨rest, rfl⟩
    exact missing rest (after?_append front rest)
  · intro absent rest found
    exact absent ⟨rest, after?_eq_some_iff.mp found⟩

theorem before?_eq_some_iff {back t front : Text} :
    before? back t = some front ↔ front ++ back = t :=
  List.isSuffixOf?_eq_some_iff_append_eq

@[simp]
theorem before?_append (front back : Text) : before? back (front ++ back) = some front :=
  before?_eq_some_iff.mpr rfl

/-- The end of two texts in a row is in the second one or takes all of it. -/
theorem isSuffix_append_iff {s front back : Text} :
    s <:+ front ++ back ↔ s <:+ back ∨ ∃ u, u <:+ front ∧ s = u ++ back := by
  constructor
  · intro ends
    rcases List.suffix_or_suffix_of_suffix ends (List.suffix_append front back) with short | long
    · exact .inl short
    · obtain ⟨u, rfl⟩ := long
      exact .inr ⟨u, List.suffix_append_self_iff.mp ends, rfl⟩
  · rintro (short | ⟨u, ends, rfl⟩)
    · exact short.trans (List.suffix_append front back)
    · exact List.suffix_append_self_iff.mpr ends

/-- What begins with a character begins behind a text without it. -/
theorem isSuffix_of_cons_isSuffix_append {c : Char} {s front back : Text} (absent : c ∉ front)
    (ends : c :: s <:+ front ++ back) : c :: s <:+ back := by
  rcases isSuffix_append_iff.mp ends with short | ⟨u, inFront, whole⟩
  · exact short
  · cases u with
    | nil => exact whole ▸ List.suffix_rfl
    | cons d u =>
      obtain ⟨rfl, _⟩ := List.cons.inj whole
      exact absurd (inFront.subset List.mem_cons_self) absent

/-- What does not contain a character cannot run across it. -/
theorem isPrefix_of_isPrefix_append_cons {a : Char} {w s rest : Text} (absent : a ∉ w)
    (found : w <+: s ++ a :: rest) : w <+: s := by
  rcases List.prefix_or_prefix_of_prefix found (List.prefix_append s (a :: rest)) with short | long
  · exact short
  · obtain ⟨more, rfl⟩ := long
    rw [List.prefix_append_right_inj] at found
    cases more with
    | nil => exact (List.append_nil s).symm ▸ List.prefix_rfl
    | cons b more =>
      have same : b = a := (List.cons_prefix_cons.mp found).1
      exact absurd (List.mem_append_right s (same ▸ List.mem_cons_self)) absent

/-- What does not contain a character is found on one side of it. -/
theorem isInfix_append_cons_iff {a : Char} {w s rest : Text} (absent : a ∉ w) :
    w <:+: s ++ a :: rest ↔ w <:+: s ∨ w <:+: rest := by
  constructor
  · intro found
    obtain ⟨part, front, back⟩ := List.infix_iff_prefix_suffix.mp found
    rcases List.suffix_or_suffix_of_suffix back (List.suffix_append s (a :: rest)) with short | long
    · rcases List.suffix_cons_iff.mp short with rfl | short
      · -- Only the empty text begins where that character stands.
        cases w with
        | nil => exact .inl (List.nil_infix)
        | cons b w =>
          have same : b = a := (List.cons_prefix_cons.mp front).1
          exact absurd (same ▸ List.mem_cons_self) absent
      · exact .inr (front.isInfix.trans short.isInfix)
    · obtain ⟨before, rfl⟩ := long
      have inside : before <:+ s := ((List.suffix_append_inj_of_length_eq rfl).mp back).1
      exact .inl ((isPrefix_of_isPrefix_append_cons absent front).isInfix.trans inside.isInfix)
  · rintro (found | found)
    · exact found.trans (List.prefix_append s (a :: rest)).isInfix
    · exact found.trans ((List.suffix_cons a rest).trans (List.suffix_append s _)).isInfix

/-- Two texts without a common character. -/
def Apart (s t : Text) : Prop := ∀ c ∈ s, c ∉ t

instance (s t : Text) : Decidable (Apart s t) :=
  decidable_of_iff (s.all fun c => !t.contains c) (by simp [Apart])

/-- What shares no character with a mark can be left out in front when the mark is looked for. -/
theorem isInfix_of_isInfix_append_left {mark front t : Text} (shown : mark ≠ [])
    (apart : Apart front mark) (found : mark <:+: front ++ t) : mark <:+: t := by
  induction front with
  | nil => exact found
  | cons c front ih =>
    rw [Apart, List.forall_mem_cons] at apart
    rcases (isInfix_append_cons_iff (s := []) apart.1).mp found with empty | later
    · exact absurd (List.infix_nil.mp empty) shown
    · exact ih apart.2 later

theorem isInfix_of_isInfix_append_right {mark t back : Text} (shown : mark ≠ [])
    (apart : Apart back mark) (found : mark <:+: t ++ back) : mark <:+: t := by
  induction back generalizing t with
  | nil => rwa [List.append_nil] at found
  | cons c back ih =>
    rw [Apart, List.forall_mem_cons] at apart
    rcases (isInfix_append_cons_iff apart.1).mp found with early | late
    · exact early
    · exact absurd (List.infix_nil.mp (ih (t := []) apart.2 late)) shown

/-- A text is cut at the first place of a mark: nowhere before that place does the mark begin. -/
theorem cutAt?_eq_some_iff {mark t front rest : Text} (shown : mark ≠ []) :
    cutAt? mark t = some (front, rest) ↔
      t = front ++ mark ++ rest ∧ ∀ s, s <:+ front → s ≠ [] → ¬ mark <+: s ++ mark ++ rest := by
  induction t generalizing front with
  | nil => simp [cutAt?, shown]
  | cons c t ih =>
    unfold cutAt?
    cases found : after? mark (c :: t) with
    | some back =>
      have whole : mark ++ back = c :: t := after?_eq_some_iff.mp found
      rw [Option.some.injEq, Prod.mk.injEq]
      constructor
      · rintro ⟨rfl, rfl⟩
        refine ⟨whole.symm, ?_⟩
        intro s inside nonempty
        exact absurd (List.suffix_nil.mp inside) nonempty
      · rintro ⟨cut, first⟩
        have empty : front = [] := by
          by_contra nonempty
          apply first front List.suffix_rfl nonempty
          rw [← cut, ← whole]
          exact List.prefix_append mark back
        subst empty
        exact ⟨rfl, List.append_cancel_left (whole.trans cut)⟩
    | none =>
      have missing : ¬ mark <+: c :: t := after?_eq_none_iff.mp found
      constructor
      · intro later
        obtain ⟨⟨others, back⟩, cut, same⟩ := Option.map_eq_some_iff.mp later
        obtain ⟨rfl, rfl⟩ := Prod.mk.inj same
        obtain ⟨rfl, first⟩ := ih.mp cut
        refine ⟨rfl, ?_⟩
        intro s inside nonempty
        rcases List.suffix_cons_iff.mp inside with rfl | inside
        · exact missing
        · exact first s inside nonempty
      · rintro ⟨cut, first⟩
        cases front with
        | nil =>
          rw [cut] at missing
          exact absurd (List.prefix_append mark rest) missing
        | cons d front =>
          obtain ⟨rfl, rfl⟩ := List.cons.inj cut
          refine Option.map_eq_some_iff.mpr ⟨(front, rest), ?_, rfl⟩
          exact ih.mpr ⟨rfl, fun s inside => first s (inside.trans (List.suffix_cons c front))⟩

/-- A text without a mark is not cut. -/
theorem cutAt?_eq_none {mark t : Text} (shown : mark ≠ []) (absent : ¬ mark <:+: t) :
    cutAt? mark t = none := by
  rw [Option.eq_none_iff_forall_ne_some]
  rintro ⟨front, rest⟩ found
  exact absent ⟨front, rest, ((cutAt?_eq_some_iff shown).mp found).1.symm⟩

/-- A text is cut unless it lacks the mark. -/
theorem cutAt?_eq_none_iff {mark t : Text} (shown : mark ≠ []) :
    cutAt? mark t = none ↔ ¬ mark <:+: t := by
  refine ⟨?_, cutAt?_eq_none shown⟩
  induction t with
  | nil => exact fun _ found => shown (List.infix_nil.mp found)
  | cons c t ih =>
    intro uncut found
    unfold cutAt? at uncut
    cases opened : after? mark (c :: t) with
    | some rest => simp [opened] at uncut
    | none =>
      rw [opened] at uncut
      rcases List.infix_cons_iff.mp found with front | later
      · exact after?_eq_none_iff.mp opened front
      · exact ih (Option.map_eq_none_iff.mp uncut) later

/-- A mark is found behind a text without it, if it lacks the last character of that text. -/
theorem cutAt?_concat_append {mark front : Text} {a : Char} (shown : mark ≠ []) (absent : a ∉ mark)
    (rest : Text) (missing : ¬ mark <:+: front ++ [a]) :
    cutAt? mark (front ++ [a] ++ mark ++ rest) = some (front ++ [a], rest) := by
  rw [cutAt?_eq_some_iff shown]
  refine ⟨rfl, ?_⟩
  intro s inside nonempty found
  obtain ⟨before, rfl⟩ : ∃ before, s = before ++ [a] := by
    obtain ⟨before, last, rfl⟩ := (List.eq_nil_or_concat' s).resolve_left nonempty
    have same : last = a := by
      have ends := inside.getLast (by simp)
      simpa using ends
    exact ⟨before, same ▸ rfl⟩
  rw [List.append_assoc, List.append_assoc, List.singleton_append] at found
  have within : mark <+: before := isPrefix_of_isPrefix_append_cons absent found
  have contained : before <:+: front ++ [a] :=
    (List.prefix_append before [a]).isInfix.trans inside.isInfix
  exact missing (within.isInfix.trans contained)

/-- A mark that does not repeat its last character is found behind a text exactly if the text does
not hold it. -/
theorem cutAt?_append_iff {w : Text} {z : Char} (absent : z ∉ w) (front rest : Text) :
    cutAt? (w ++ [z]) (front ++ (w ++ [z]) ++ rest) = some (front, rest) ↔
      ¬ w ++ [z] <:+: front := by
  rw [cutAt?_eq_some_iff (by simp)]
  constructor
  · rintro ⟨_, first⟩ found
    obtain ⟨s, begins, ends⟩ := List.infix_iff_prefix_suffix.mp found
    have nonempty : s ≠ [] := by
      rintro rfl
      exact absurd (List.prefix_nil.mp begins) (by simp)
    refine first s ends nonempty (begins.trans ?_)
    rw [List.append_assoc]
    exact List.prefix_append _ _
  · refine fun missing => ⟨rfl, fun s ends nonempty found => ?_⟩
    rw [List.append_assoc] at found
    rcases List.prefix_or_prefix_of_prefix found (List.prefix_append s _) with within | across
    · exact missing (within.isInfix.trans ends.isInfix)
    · -- What is left of the mark begins the mark again, so its last character is repeated.
      obtain ⟨more, split⟩ := across
      have again : s ++ more <+: s ++ (w ++ [z] ++ rest) := split.symm ▸ found
      rw [List.prefix_append_right_inj, List.append_assoc] at again
      rcases List.eq_nil_or_concat' more with rfl | ⟨others, last, rfl⟩
      · rw [List.append_nil] at split
        exact missing (split ▸ ends.isInfix)
      · rw [← List.append_assoc] at split
        obtain ⟨rfl, final⟩ := List.append_inj' split rfl
        obtain rfl := List.singleton_inj.mp final
        have positive := List.length_pos_iff.mpr nonempty
        have short : (others ++ [last]).length ≤ (s ++ others).length := by
          simp only [List.length_append, List.length_singleton]
          omega
        have inMark := List.prefix_of_prefix_length_le again (List.prefix_append _ _) short
        exact absent (inMark.subset (by simp))

/-- A mark that does not repeat its first character is found behind a text without it. -/
theorem cutAt?_append {a : Char} {w : Text} (absent : a ∉ w) {front : Text} (rest : Text)
    (missing : ¬ a :: w <:+: front) :
    cutAt? (a :: w) (front ++ (a :: w) ++ rest) = some (front, rest) := by
  rw [cutAt?_eq_some_iff (List.cons_ne_nil a w)]
  refine ⟨rfl, ?_⟩
  intro s inside nonempty found
  obtain ⟨c, s, rfl⟩ := List.exists_cons_of_ne_nil nonempty
  rw [List.append_assoc, List.cons_append, List.cons_prefix_cons] at found
  obtain ⟨rfl, found⟩ := found
  have within : w <+: s := isPrefix_of_isPrefix_append_cons absent found
  exact missing ((List.cons_prefix_cons.mpr ⟨rfl, within⟩).isInfix.trans inside.isInfix)

end Text

end MarkdownDialects
