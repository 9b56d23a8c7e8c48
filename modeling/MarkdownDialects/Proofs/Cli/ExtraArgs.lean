import MarkdownDialects.Cli.ExtraArgs
import MarkdownDialects.Proofs.Text.Mark

/-!
# The parts of a command line

A command line is cut into parts: arguments that are kept, and parameters with the value behind them
if there is one.  There is one way only to cut it (`Cli.IsCut.unique`).  Taking the extra parameters
out keeps the arguments of the first kind in order and the last value under each key, and there is
nothing left to take out (`Cli.splitExtras_partitions`).
-/

namespace MarkdownDialects

namespace Cli

namespace Extras

variable (es : Extras) {key other : Text} (value : Text)

theorem value?_isSome_iff : (es.value? key).isSome ↔ key ∈ es.map Prod.fst := by
  rw [value?, Option.isSome_map, List.find?_isSome, List.mem_map]
  simp only [beq_iff_eq]

theorem value?_add :
    (es.add key value).value? other =
      (es.value? other).or (if key = other then some value else none) := by
  unfold add
  by_cases same : key = other
  · subst same
    by_cases there : (es.value? key).isSome
    · rw [if_pos there, Option.or_of_isSome there]
    · rw [if_neg there, if_pos rfl, Option.not_isSome_iff_eq_none.mp there]
      simp [value?]
  · have skipped : Extras.value? ((key, value) :: es) other = es.value? other := by
      simp [value?, List.find?_cons_of_neg, same]
    rw [apply_ite (Extras.value? · other), skipped, ite_self, if_neg same, Option.or_none]

theorem nodup_keys_add (nodup : (es.map Prod.fst).Nodup) :
    ((es.add key value).map Prod.fst).Nodup := by
  unfold add
  split
  · exact nodup
  · rename_i missing
    rw [List.map_cons, List.nodup_cons]
    exact ⟨fun member => missing ((value?_isSome_iff es).mpr member), nodup⟩

end Extras

/-- An argument names a key: it is one of the two prefixes with the key behind it. -/
def Names (arg key : Text) : Prop :=
  arg = "--extra-".toList ++ key ∨ arg = "--extras-".toList ++ key

theorem extraKey?_eq_some_iff {arg key : Text} : extraKey? arg = some key ↔ Names arg key := by
  unfold extraKey? Names
  cases found : Text.after? "--extra-".toList arg with
  | some rest =>
    rw [Text.after?_eq_some_iff] at found
    subst found
    -- The eighth character tells the two prefixes apart.
    simp [eq_comm]
  | none =>
    have other : arg ≠ "--extra-".toList ++ key := fun same =>
      Text.after?_eq_none_iff.mp found ⟨key, same.symm⟩
    rw [Option.orElse_none, Text.after?_eq_some_iff, or_iff_right other, eq_comm]

theorem extraKey?_eq_none_iff {arg : Text} : extraKey? arg = none ↔ ∀ key, ¬ Names arg key := by
  simp only [Option.eq_none_iff_forall_ne_some, ne_eq, extraKey?_eq_some_iff]

theorem Names.isDashed {arg key : Text} (names : Names arg key) : isDashed arg = true := by
  rcases names with rfl | rfl <;> rfl

theorem Names.key_unique {arg key other : Text} (names : Names arg key)
    (too : Names arg other) : key = other :=
  Option.some.inj ((extraKey?_eq_some_iff.mpr names).symm.trans (extraKey?_eq_some_iff.mpr too))

/-- A part of a command line. -/
inductive Part
  /-- An argument that is kept. -/
  | kept (arg : Text)
  /-- An argument that names a key, and the argument behind it if that is its value. -/
  | parameter (token key : Text) (value : Option Text)

namespace Part

/-- The arguments that a part is made of. -/
def arguments : Part → List Text
  | kept arg => [arg]
  | parameter token _ value => token :: value.toList

/-- The argument that is kept. -/
def kept? : Part → Option Text
  | kept arg => some arg
  | parameter _ _ _ => none

/-- The key that is set, and what it is set to. -/
def setting? : Part → Option (Text × Text)
  | kept _ => none
  | parameter _ key value => some (key, value.getD "true".toList)

/-- A part is cut in the right way in front of the arguments that follow it.  What names a key is
not kept.  A value has no dash in front, and an argument without a dash behind a parameter is its
value. -/
def Fits (next : List Text) : Part → Prop
  | kept arg => ∀ key, ¬ Names arg key
  | parameter token key (some value) => Names token key ∧ isDashed value = false
  | parameter token key none => Names token key ∧ ∀ arg ∈ next.head?, isDashed arg

theorem fits_kept {arg : Text} {next : List Text} (nameless : extraKey? arg = none) :
    (kept arg).Fits next :=
  extraKey?_eq_none_iff.mp nameless

theorem arguments_ne_nil (part : Part) : part.arguments ≠ [] := by
  cases part <;> exact List.cons_ne_nil _ _

/-- Of two parts that fit at the front of the same arguments, both are the same. -/
theorem Fits.unique {part other : Part} {next after : List Text} (fits : part.Fits next)
    (too : other.Fits after) (same : part.arguments ++ next = other.arguments ++ after) :
    part = other := by
  match part, other, fits, too with
  | kept arg, kept arg', _, _ => rw [(List.cons.inj same).1]
  | kept arg, parameter token key value, nameless, too =>
    have first : arg = token := (List.cons.inj same).1
    have names : Names token key := by cases value <;> exact too.1
    exact absurd (first ▸ names) (nameless key)
  | parameter token key value, kept arg, fits, nameless =>
    have first : token = arg := (List.cons.inj same).1
    have names : Names token key := by cases value <;> exact fits.1
    exact absurd (first ▸ names) (nameless key)
  | parameter token key (some value), parameter token' key' (some value'), fits, too =>
    obtain ⟨rfl, behind⟩ := List.cons.inj same
    rw [fits.1.key_unique too.1, (List.cons.inj behind).1]
  | parameter token key none, parameter token' key' none, fits, too =>
    obtain ⟨rfl, -⟩ := List.cons.inj same
    rw [fits.1.key_unique too.1]
  | parameter token key (some value), parameter token' key' none, fits, too =>
    have behind : value :: next = after := (List.cons.inj same).2
    have dashed : isDashed value = true := too.2 value (behind ▸ rfl)
    rw [fits.2] at dashed
    exact nomatch dashed
  | parameter token key none, parameter token' key' (some value), fits, too =>
    have behind : next = value :: after := (List.cons.inj same).2
    have dashed : isDashed value = true := fits.2 value (behind ▸ rfl)
    rw [too.2] at dashed
    exact nomatch dashed

end Part

/-- Parts that are cut in the right way, each of them in front of all the others behind it. -/
def IsCut : List Part → Prop
  | [] => True
  | part :: rest => part.Fits (rest.flatMap Part.arguments) ∧ IsCut rest

/-- A command line is cut in one way only. -/
theorem IsCut.unique {parts others : List Part} (cut : IsCut parts) (too : IsCut others)
    (same : parts.flatMap Part.arguments = others.flatMap Part.arguments) : parts = others := by
  induction parts generalizing others with
  | nil =>
    cases others with
    | nil => rfl
    | cons other more =>
      rw [List.flatMap_cons] at same
      exact absurd (List.append_eq_nil_iff.mp same.symm).1 other.arguments_ne_nil
  | cons part rest ih =>
    cases others with
    | nil =>
      rw [List.flatMap_cons] at same
      exact absurd (List.append_eq_nil_iff.mp same).1 part.arguments_ne_nil
    | cons other more =>
      rw [List.flatMap_cons, List.flatMap_cons] at same
      obtain rfl := cut.1.unique too.1 same
      rw [ih cut.2 too.2 (List.append_cancel_left same)]

/-- Every command line can be cut. -/
theorem exists_isCut (args : List Text) :
    ∃ parts, IsCut parts ∧ parts.flatMap Part.arguments = args := by
  fun_induction splitExtras args with
  | case1 => exact ⟨[], trivial, rfl⟩
  | case2 arg rest nameless _ _ _ ih =>
    obtain ⟨parts, cut, rfl⟩ := ih
    exact ⟨.kept arg :: parts, ⟨Part.fits_kept nameless, cut⟩, rfl⟩
  | case3 arg key named next later dashed _ _ _ ih =>
    obtain ⟨parts, cut, whole⟩ := ih
    refine ⟨.parameter arg key none :: parts, ⟨⟨extraKey?_eq_some_iff.mp named, ?_⟩, cut⟩, ?_⟩
    · rw [whole]
      exact fun first same => Option.some.inj same ▸ dashed
    · rw [List.flatMap_cons, whole]
      rfl
  | case4 arg key named next later bare _ _ _ ih =>
    obtain ⟨parts, cut, rfl⟩ := ih
    refine ⟨.parameter arg key (some next) :: parts, ⟨⟨extraKey?_eq_some_iff.mp named, ?_⟩, cut⟩,
      rfl⟩
    exact Bool.eq_false_iff.mpr bare
  | case5 arg key named =>
    exact ⟨[.parameter arg key none], ⟨⟨extraKey?_eq_some_iff.mp named, nofun⟩, trivial⟩, rfl⟩

/-- The value that the last of some parts gives a key. -/
def lastValue? (parts : List Part) (key : Text) : Option Text :=
  ((parts.filterMap Part.setting?).reverse.find? (·.1 == key)).map Prod.snd

theorem lastValue?_cons (part : Part) (rest : List Part) (key : Text) :
    lastValue? (part :: rest) key =
      (lastValue? rest key).or ((part.setting?.filter (·.1 == key)).map Prod.snd) := by
  unfold lastValue?
  cases part with
  | kept arg => exact (Option.or_none).symm
  | parameter token name value =>
    have shown : (Part.parameter token name value).setting? =
        some (name, value.getD "true".toList) := rfl
    rw [List.filterMap_cons_some shown, List.reverse_cons, List.find?_append, Option.map_or, shown,
      List.find?_singleton, Option.filter_some]

section Split

variable {parts : List Part}

/-- What the arguments of one more part add to what is taken out of the arguments behind them. -/
theorem splitExtras_part {part : Part} {next : List Text} (fits : part.Fits next) :
    splitExtras (part.arguments ++ next) =
      (part.kept?.toList ++ (splitExtras next).1,
        (part.setting?.elim id fun s es => es.add s.1 s.2) (splitExtras next).2) := by
  match part, fits with
  | .kept arg, nameless =>
    change splitExtras (arg :: next) = _
    rw [splitExtras, extraKey?_eq_none_iff.mpr nameless]
    rfl
  | .parameter token key (some value), ⟨names, bare⟩ =>
    change splitExtras (token :: value :: next) = _
    rw [splitExtras, extraKey?_eq_some_iff.mpr names]
    simp only [bare, Bool.false_eq_true, if_false]
    rfl
  | .parameter token key none, ⟨names, dashed⟩ =>
    change splitExtras (token :: next) = _
    rw [splitExtras.eq_def]
    simp only [extraKey?_eq_some_iff.mpr names]
    cases next with
    | nil => rfl
    | cons arg later =>
      simp only [dashed arg rfl, if_true]
      rfl

theorem fst_splitExtras (cut : IsCut parts) :
    (splitExtras (parts.flatMap Part.arguments)).1 = parts.filterMap Part.kept? := by
  induction parts with
  | nil => rfl
  | cons part rest ih =>
    rw [List.flatMap_cons, splitExtras_part cut.1, ih cut.2, List.filterMap_cons]
    cases part <;> rfl

theorem value?_splitExtras (cut : IsCut parts) (key : Text) :
    (splitExtras (parts.flatMap Part.arguments)).2.value? key = lastValue? parts key := by
  induction parts with
  | nil => rfl
  | cons part rest ih =>
    rw [List.flatMap_cons, splitExtras_part cut.1, lastValue?_cons, ← ih cut.2]
    cases part with
    | kept arg => exact (Option.or_none).symm
    | parameter token name value =>
      simp only [Part.setting?, Option.elim_some, Extras.value?_add, Option.filter_some, beq_iff_eq,
        apply_ite (Option.map Prod.snd), Option.map_some, Option.map_none]

end Split

theorem nodup_keys_splitExtras (args : List Text) :
    ((splitExtras args).2.map Prod.fst).Nodup := by
  fun_induction splitExtras args with
  | case1 => exact List.nodup_nil
  | case2 arg rest nameless _ _ split ih => rwa [split] at ih
  | case3 arg key named next later dashed _ _ split ih
  | case4 arg key named next later bare _ _ split ih =>
    rw [split] at ih
    exact Extras.nodup_keys_add _ _ ih
  | case5 arg key named => exact List.pairwise_singleton _ key

/-- Arguments that name no key are all kept. -/
theorem splitExtras_of_nameless {args : List Text} (nameless : ∀ arg ∈ args, extraKey? arg = none) :
    splitExtras args = (args, []) := by
  induction args with
  | nil => rfl
  | cons arg rest ih =>
    obtain ⟨first, others⟩ := List.forall_mem_cons.mp nameless
    rw [splitExtras, first, ih others]

theorem extraKey?_eq_none_of_mem_kept {parts : List Part} (cut : IsCut parts) {arg : Text}
    (member : arg ∈ parts.filterMap Part.kept?) : extraKey? arg = none := by
  induction parts with
  | nil => exact absurd member List.not_mem_nil
  | cons part rest ih =>
    cases part with
    | parameter token key value => exact ih cut.2 member
    | kept first =>
      rcases List.mem_cons.mp member with rfl | later
      · exact extraKey?_eq_none_iff.mpr cut.1
      · exact ih cut.2 later

/-- **Taking the extra parameters out parts a command line in two.**  The command line is cut into
parts in one way only, and every argument is in one part.  The arguments that are kept stay in
order.  Each key that a part names has the value of the last part that names it: the argument behind
it if there is one without a dash, and else `true`; no other key has a value.  Nothing more can be
taken out of the arguments that are kept. -/
theorem splitExtras_partitions (args : List Text) :
    ∃ parts : List Part,
      (IsCut parts ∧ parts.flatMap Part.arguments = args ∧
        ∀ others, IsCut others → others.flatMap Part.arguments = args → others = parts) ∧
      (splitExtras args).1 = parts.filterMap Part.kept? ∧
      ((splitExtras args).2.map Prod.fst).Nodup ∧
      (∀ key, (splitExtras args).2.value? key = lastValue? parts key) ∧
      splitExtras (splitExtras args).1 = ((splitExtras args).1, []) := by
  obtain ⟨parts, cut, rfl⟩ := exists_isCut args
  have kept := fst_splitExtras cut
  refine ⟨parts, ⟨cut, rfl, fun others too same => too.unique cut same⟩, kept,
    nodup_keys_splitExtras _, value?_splitExtras cut, ?_⟩
  rw [kept]
  exact splitExtras_of_nameless fun arg => extraKey?_eq_none_of_mem_kept cut

/-- Both prefixes name the same key, and the input that means standard input is no value. -/
example :
    splitExtras ["a.md".toList, "--extra-k".toList, "v".toList, "--extras-k".toList, ['-']] =
      (["a.md".toList, ['-']], [("k".toList, "true".toList)]) := by
  decide

end Cli

end MarkdownDialects
