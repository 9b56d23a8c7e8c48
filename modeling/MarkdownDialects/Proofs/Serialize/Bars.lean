import MarkdownDialects.Proofs.Serialize.InlineCode
import MarkdownDialects.Proofs.Serialize.Literal
import MarkdownDialects.Proofs.Text.LineEnd

/-!
# Open bars

A bar divides the cells of a row unless a backslash escapes it.  A text that ends no sooner than its
escapes do can be followed by any other, and the open bars of both are counted
(`Serialize.Barred.append`); all that the serializer puts together in a cell is such a text.
-/

namespace MarkdownDialects

namespace Serialize

/-- The number of bars in a text that are not escaped: each stands behind an even number of
backslashes. -/
def openBars : Text → Nat
  | '\\' :: _ :: t => openBars t
  | '|' :: t => openBars t + 1
  | _ :: t => openBars t
  | [] => 0

/-- A text with so many open bars, the last backslash of which escapes something in it, and not only
white space at its end. -/
inductive Barred : Text → Nat → Prop
  | nil : Barred [] 0
  | escaped {c : Char} {t : Text} {n : Nat} (shown : Text.isAllBlank (c :: t) = false)
      (later : Barred t n) : Barred ('\\' :: c :: t) n
  | bar {t : Text} {n : Nat} (later : Barred t n) : Barred ('|' :: t) (n + 1)
  | plain {c : Char} {t : Text} {n : Nat} (noEscape : c ≠ '\\') (noBar : c ≠ '|')
      (later : Barred t n) : Barred (c :: t) n

theorem openBars_plain {c : Char} (noEscape : c ≠ '\\') (noBar : c ≠ '|') (t : Text) :
    openBars (c :: t) = openBars t :=
  openBars.eq_3 c t (fun _ _ escape _ => noEscape escape) noBar

/-- A text is read in escapes, bars and other characters; a backslash can be left at its end. -/
@[elab_as_elim]
theorem openBars_induction {motive : Text → Prop} (nil : motive []) (hanging : motive ['\\'])
    (escaped : ∀ c t, motive t → motive ('\\' :: c :: t)) (bar : ∀ t, motive t → motive ('|' :: t))
    (plain : ∀ c t, c ≠ '\\' → c ≠ '|' → motive t → motive (c :: t)) (t : Text) : motive t := by
  induction t using openBars.induct with
  | case1 c t ih => exact escaped c t ih
  | case2 t ih => exact bar t ih
  | case3 c t notEscape noBar ih =>
    by_cases escape : c = '\\'
    · subst escape
      cases t with
      | nil => exact hanging
      | cons d t => exact absurd rfl (notEscape d t rfl)
    · exact plain c t escape noBar ih
  | case4 => exact nil

/-- Only white space is changed, to other white space. -/
def Reblanks (f : Char → Char) : Prop := ∀ c, f c = c ∨ Text.isBlank c ∧ Text.isBlank (f c)

namespace Reblanks

variable {f : Char → Char} (reblanks : Reblanks f)
include reblanks

theorem isBlank_eq (c : Char) : Text.isBlank (f c) = Text.isBlank c := by
  rcases reblanks c with same | ⟨before, after⟩
  · rw [same]
  · rw [before, after]

theorem eq_of_shown {c : Char} (shown : Text.isBlank c = false) : f c = c :=
  (reblanks c).resolve_right fun blank => Bool.noConfusion (shown.symm.trans blank.1)

theorem ne {c d : Char} (shown : Text.isBlank d = false) (other : c ≠ d) : f c ≠ d := by
  rcases reblanks c with same | ⟨-, blank⟩
  · rwa [same]
  · rintro rfl
    exact Bool.noConfusion (shown.symm.trans blank)

theorem openBars_map (t : Text) : openBars (t.map f) = openBars t := by
  induction t using openBars_induction with
  | nil => rfl
  | hanging => rw [List.map_cons, reblanks.eq_of_shown rfl, List.map_nil]
  | escaped c t ih =>
    rw [List.map_cons, List.map_cons, reblanks.eq_of_shown rfl, openBars, openBars, ih]
  | bar t ih => rw [List.map_cons, reblanks.eq_of_shown rfl, openBars, openBars, ih]
  | plain c t noEscape noBar ih =>
    rw [List.map_cons, openBars_plain noEscape noBar,
      openBars_plain (reblanks.ne rfl noEscape) (reblanks.ne rfl noBar), ih]

theorem count_map (t : Text) : (t.map f).count '|' = t.count '|' := by
  rw [List.count, List.countP_map]
  refine List.countP_congr fun c _ => ?_
  by_cases bar : c = '|'
  · have kept : f '|' = '|' := reblanks.eq_of_shown rfl
    simp [bar, kept]
  · simp [bar, reblanks.ne rfl bar]

end Reblanks

/-- A character that shows that a text goes on. -/
structure IsCloser (c : Char) : Prop where
  shown : Text.isBlank c = false
  noEscape : c ≠ '\\'
  noBar : c ≠ '|'

namespace Barred

variable {s t : Text} {m n : Nat}

theorem openBars_eq (barred : Barred t n) : openBars t = n := by
  induction barred with
  | nil => rfl
  | escaped _ _ ih => rwa [openBars]
  | bar _ ih => rw [openBars, ih]
  | plain noEscape noBar _ ih => rw [openBars_plain noEscape noBar, ih]

theorem append (front : Barred s m) (back : Barred t n) : Barred (s ++ t) (m + n) := by
  induction front with
  | nil => rwa [Nat.zero_add]
  | @escaped c s m shown _ ih =>
    refine .escaped ?_ ih
    change (c :: s ++ t).all Text.isBlank = false
    rw [List.all_append, show (c :: s).all Text.isBlank = false from shown, Bool.false_and]
  | @bar s m _ ih =>
    rw [Nat.add_right_comm]
    exact .bar ih
  | plain noEscape noBar _ ih => exact .plain noEscape noBar ih

/-- A text without bars and backslashes. -/
theorem of_clean (clean : ∀ c ∈ t, c ≠ '\\' ∧ c ≠ '|') : Barred t 0 := by
  induction t with
  | nil => exact .nil
  | cons c t ih =>
    obtain ⟨noEscape, noBar⟩ := clean c List.mem_cons_self
    exact .plain noEscape noBar (ih fun d member => clean d (.tail c member))

theorem of_blank (blank : ∀ c ∈ t, Text.isBlank c) : Barred t 0 :=
  of_clean fun c member => by
    constructor
    · rintro rfl
      exact absurd (blank _ member) (by decide)
    · rintro rfl
      exact absurd (blank _ member) (by decide)

theorem of_cons {c : Char} (barred : Barred (c :: t) n) (noEscape : c ≠ '\\') (noBar : c ≠ '|') :
    Barred t n := by
  cases barred with
  | escaped => exact absurd rfl noEscape
  | bar => exact absurd rfl noBar
  | plain _ _ later => exact later

/-- Any text is such a text as far as a character that goes on behind it. -/
theorem of_closer {c : Char} (closer : IsCloser c) (s : Text) (back : Barred t n) :
    Barred (s ++ c :: t) (openBars s + n) := by
  have notBlank (u : Text) : Text.isAllBlank (u ++ c :: t) = false := by
    simp [Text.isAllBlank, closer.shown]
  have closed : Barred (c :: t) n := .plain closer.noEscape closer.noBar back
  induction s using openBars_induction with
  | nil => exact (Nat.zero_add n).symm ▸ closed
  | hanging => exact (Nat.zero_add n).symm ▸ .escaped (notBlank []) back
  | escaped d s ih =>
    rw [openBars]
    exact .escaped (notBlank (d :: s)) ih
  | bar s ih =>
    rw [openBars, Nat.add_right_comm]
    exact .bar ih
  | plain d s noEscape noBar ih =>
    rw [openBars_plain noEscape noBar]
    exact .plain noEscape noBar ih

theorem eq_zero_of_isAllBlank (barred : Barred t n) (blank : Text.isAllBlank t) : n = 0 :=
  barred.openBars_eq.symm.trans (of_blank (List.all_eq_true.mp blank)).openBars_eq

/-- White space at the end is not escaped. -/
theorem of_append {kept back : Text} (blank : Text.isAllBlank back)
    (barred : Barred (kept ++ back) n) : Barred kept n := by
  have absent {c : Char} {rest : Text} (shown : Text.isBlank c = false) : back ≠ c :: rest := by
    rintro rfl
    exact absurd blank (by simp [Text.isAllBlank, shown])
  generalize whole : kept ++ back = t at barred
  induction barred generalizing kept with
  | nil => exact (List.append_eq_nil_iff.mp whole).1 ▸ .nil
  | @escaped c t n shown _ ih =>
    cases kept with
    | nil => exact absurd whole (absent rfl)
    | cons d kept =>
      obtain ⟨rfl, behind⟩ := List.cons.inj whole
      cases kept with
      | nil =>
        have last : back = c :: t := behind
        rw [last] at blank
        exact absurd blank (by simp [shown])
      | cons e kept =>
        obtain ⟨rfl, later⟩ := List.cons.inj behind
        refine .escaped ?_ (ih later)
        subst later
        change (e :: kept ++ back).all Text.isBlank = false at shown
        change back.all Text.isBlank at blank
        rwa [List.all_append, blank, Bool.and_true] at shown
  | @bar t n _ ih =>
    cases kept with
    | nil => exact absurd whole (absent rfl)
    | cons d kept =>
      obtain ⟨rfl, later⟩ := List.cons.inj whole
      exact .bar (ih later)
  | @plain c t n noEscape noBar later ih =>
    cases kept with
    | nil =>
      have last : back = c :: t := whole
      have none := (Barred.plain noEscape noBar later).eq_zero_of_isAllBlank (last ▸ blank)
      exact none ▸ .nil
    | cons d kept =>
      obtain ⟨rfl, later⟩ := List.cons.inj whole
      exact .plain noEscape noBar (ih later)

section Trim

variable {p : Char → Bool} (covers : ∀ c, p c → Text.isBlank c)
include covers

theorem trimEndBy (barred : Barred t n) : Barred (Text.trimEndBy p t) n := by
  obtain ⟨back, dropped, whole⟩ := Text.exists_trimEndBy_append p t
  have blank : Text.isAllBlank back :=
    List.all_eq_true.mpr fun c member => covers c (dropped c member)
  exact of_append blank (whole ▸ barred)

theorem trimStartBy (barred : Barred t n) : Barred (Text.trimStartBy p t) n := by
  induction t with
  | nil => exact barred
  | cons c t ih =>
    by_cases dropped : p c
    · have solid {d : Char} (shown : Text.isBlank d = false) : c ≠ d := by
        rintro rfl
        exact Bool.noConfusion (shown.symm.trans (covers _ dropped))
      rw [Text.trimStartBy, List.dropWhile_cons_of_pos dropped]
      exact ih (barred.of_cons (solid rfl) (solid rfl))
    · rwa [Text.trimStartBy, List.dropWhile_cons_of_neg dropped]

theorem trimBy (barred : Barred t n) : Barred (Text.trimBy p t) n :=
  (barred.trimStartBy covers).trimEndBy covers

end Trim

theorem map {f : Char → Char} (reblanks : Reblanks f) (barred : Barred t n) :
    Barred (t.map f) n := by
  have blank (u : Text) : Text.isAllBlank (u.map f) = Text.isAllBlank u := by
    rw [Text.isAllBlank, List.all_map]
    exact congrArg u.all (funext fun c => reblanks.isBlank_eq c)
  induction barred with
  | nil => exact .nil
  | escaped shown _ ih =>
    rw [List.map_cons, List.map_cons, reblanks.eq_of_shown rfl]
    exact .escaped ((blank _).trans shown) ih
  | bar _ ih =>
    rw [List.map_cons, reblanks.eq_of_shown rfl]
    exact .bar ih
  | plain noEscape noBar _ ih =>
    exact .plain (reblanks.ne rfl noEscape) (reblanks.ne rfl noBar) ih

end Barred

/-! ## Escapes -/

theorem escapeBars_cons (c : Char) (t : Text) :
    escapeBars (c :: t) = (if c = '|' then ['\\', '|'] else [c]) ++ escapeBars t :=
  Text.replaceChar_cons '|' _ c t

/-- Where bars are escaped, just those are open that were escaped before. -/
theorem openBars_escapeBars (t : Text) : openBars (escapeBars t) + openBars t = t.count '|' := by
  induction t using openBars_induction with
  | nil | hanging => rfl
  | escaped c t ih =>
    rw [escapeBars_cons, escapeBars_cons, openBars]
    by_cases bar : c = '|'
    · subst bar
      simp [openBars]
      omega
    · simp [bar, openBars, ih]
  | bar t ih => simp [escapeBars_cons, openBars, ← ih, Nat.add_assoc]
  | plain c t noEscape noBar ih =>
    rw [escapeBars_cons, if_neg noBar, List.singleton_append, openBars_plain noEscape noBar,
      openBars_plain noEscape noBar, ih, List.count_cons_of_ne noBar]

/-- A backslash in front of every other character of a kind changes nothing. -/
theorem openBars_replaceChar {mark : Char} (noEscape : mark ≠ '\\') (noBar : mark ≠ '|')
    (t : Text) : openBars (Text.replaceChar mark ['\\', mark] t) = openBars t := by
  induction t using openBars_induction with
  | nil => rfl
  | hanging => rw [Text.replaceChar_cons, if_neg (Ne.symm noEscape)]; rfl
  | escaped c t ih =>
    rw [Text.replaceChar_cons, if_neg (Ne.symm noEscape), Text.replaceChar_cons, openBars]
    by_cases same : c = mark
    · simp [same, openBars, openBars_plain noEscape noBar, ih]
    · simp [same, openBars, ih]
  | bar t ih =>
    rw [Text.replaceChar_cons, if_neg (Ne.symm noBar), openBars, ← ih]
    rfl
  | plain c t noEscape' noBar' ih =>
    rw [Text.replaceChar_cons, openBars_plain noEscape' noBar']
    by_cases same : c = mark
    · simp [same, openBars, ih]
    · rw [if_neg same, List.singleton_append, openBars_plain noEscape' noBar', ih]

end Serialize

end MarkdownDialects
