import MarkdownDialects.Config.Settings

/-!
# Laying values over others

Whatever is set under a key or at a path, it is set alike in settings and in the same settings
without their values.  In the second it shows what comes from the layer: what was there before stays
where the layer puts nothing, and elsewhere the value of the layer is read (`Config.keeps_shows`).
What holds between two values holds between the values of tables and lists of them as well
(`Config.Keeps.fieldwise`).
-/

namespace MarkdownDialects

namespace Config

theorem valueAt?_cons (e : Text × Value) (es : List (Text × Value)) (k : Text) :
    valueAt? (e :: es) k = if e.1 = k then some e.2 else valueAt? es k := by
  unfold valueAt?
  by_cases same : e.1 = k <;> simp [same]

theorem keys_put (es : List (Text × Value)) (key : Text) (v : Value) :
    (put es key v).map Prod.fst =
      if key ∈ es.map Prod.fst then es.map Prod.fst else es.map Prod.fst ++ [key] := by
  have there : es.any (·.1 == key) = true ↔ key ∈ es.map Prod.fst := by
    simp [List.any_eq_true, List.mem_map]
  unfold put
  by_cases member : key ∈ es.map Prod.fst
  · rw [if_pos (there.mpr member), if_pos member, List.map_map]
    refine List.map_congr_left fun e _ => ?_
    by_cases same : e.1 = key <;> simp [same]
  · rw [if_neg (mt there.mp member), if_neg member, List.map_append]
    rfl

theorem valueAt?_put (es : List (Text × Value)) (key : Text) (v : Value) (k : Text) :
    valueAt? (put es key v) k = if key = k then some v else valueAt? es k := by
  have changed : ∀ ds : List (Text × Value),
      valueAt? (ds.map fun e => if e.1 == key then (key, v) else e) k =
        if key = k then (valueAt? ds k).map fun _ => v else valueAt? ds k := by
    intro ds
    induction ds with
    | nil => simp [valueAt?]
    | cons d ds ih =>
      rw [List.map_cons, valueAt?_cons, valueAt?_cons, ih]
      by_cases same : d.1 = key <;> by_cases asked : key = k <;> grind
  unfold put
  by_cases there : es.any (·.1 == key) = true
  · rw [if_pos there, changed]
    split
    · rename_i asked
      obtain ⟨e, found⟩ := Option.isSome_iff_exists.mp (List.find?_isSome.mpr
        (List.any_eq_true.mp there))
      rw [← asked, valueAt?, found]
      rfl
    · rfl
  · rw [if_neg there, valueAt?, List.find?_append]
    by_cases asked : key = k
    · subst asked
      have missing : es.find? (·.1 == key) = none :=
        Option.not_isSome_iff_eq_none.mp fun found =>
          there (List.any_eq_true.mpr (List.find?_isSome.mp found))
      simp [missing]
    · simp [asked, valueAt?]

/-- A value as it is set under a key: a table adds to what was there before. -/
def merged : Value → Option Value → Value
  | .table incoming, before => setAll incoming (before.getD (.table []))
  | v, _ => v

theorem setKey_eq (key : Text) (v old : Value) :
    setKey key v old = .table (put (entries old) key (merged v (valueAt? (entries old) key))) := by
  cases v with
  | table incoming => rw [setKey]; rfl
  | null | bool | int | real | text | moment | list =>
    rw [setKey]
    · rfl
    · exact nofun

theorem valueAt?_setKey (key : Text) (v old : Value) (k : Text) :
    valueAt? (entries (setKey key v old)) k =
      if key = k then some (merged v (valueAt? (entries old) key))
      else valueAt? (entries old) k := by
  rw [setKey_eq, entries, valueAt?_put]

/-- Keys that differ in any case are set independently of each other. -/
theorem valueAt?_setAll {es : List (Text × Value)} (lower : ∀ e ∈ es, Text.lower e.1 = e.1)
    (nodup : (es.map Prod.fst).Nodup) (old : Value) (k : Text) :
    valueAt? (entries (setAll es old)) k =
      match valueAt? es k with
      | some v => some (merged v (valueAt? (entries old) k))
      | none => valueAt? (entries old) k := by
  induction es generalizing old with
  | nil => rw [setAll]; rfl
  | cons e rest ih =>
    obtain ⟨missing, nodup⟩ := List.nodup_cons.mp nodup
    rw [setAll, lower e List.mem_cons_self, ih (fun d later => lower d (.tail _ later)) nodup,
      valueAt?_setKey]
    by_cases same : e.1 = k
    · subst same
      have gone : valueAt? rest e.1 = none := by
        rw [valueAt?, Option.map_eq_none_iff, List.find?_eq_none]
        intro d later equal
        exact missing (List.mem_map.mpr ⟨d, later, beq_iff_eq.mp equal⟩)
      simp [valueAt?_cons, gone]
    · simp [valueAt?_cons, same]

/-- One value covers another: wherever the first can be read as a setting, the second is read
alike.  Lists are never read, and of the tables only those with one key, for the sake of it. -/
inductive Covers : Value → Value → Prop
  | same (v : Value) : Covers v v
  | lists (vs ws : List Value) : Covers (.list vs) (.list ws)
  | tables {es ds : List (Text × Value)} (nonempty : ds ≠ []) (nodup : (ds.map Prod.fst).Nodup)
      (keys : ds.map Prod.fst ⊆ es.map Prod.fst) : Covers (.table es) (.table ds)

/-- A reader that reads covered values alike, and nothing where no value is. -/
structure IsStrict {α : Type} (read : Reader α) : Prop where
  covered : ∀ {m h x}, Covers m h → read m = .ok x → read h = .ok x
  null : ∀ x, read .null ≠ .ok x

theorem isStrict_readDialect : IsStrict readDialect where
  null _ := nofun
  covered {m h x} covers read := by
    cases covers with
    | same => exact read
    | lists => exact nomatch read
    | @tables es ds nonempty nodup keys =>
      match es, read with
      | [(key, v)], read =>
        have single : ds.map Prod.fst = [key] := by
          have each : ∀ k ∈ ds.map Prod.fst, k = key := fun k member =>
            List.mem_singleton.mp (keys member)
          match whole : ds.map Prod.fst, nodup, each with
          | [], _, _ => exact absurd (List.map_eq_nil_iff.mp whole) nonempty
          | [k], _, each => rw [each k List.mem_cons_self]
          | k :: l :: more, nodup, each =>
            have first := each k List.mem_cons_self
            have second := each l (.tail _ List.mem_cons_self)
            exact absurd (first.trans second.symm) (by
              have := (List.nodup_cons.mp nodup).1
              grind)
        match ds, single with
        | [(k, w)], single =>
          obtain rfl : k = key := (List.cons.inj single).1
          exact read

theorem isStrict_readBool : IsStrict readBool where
  null _ := nofun
  covered covers read := by
    cases covers with
    | same => exact read
    | lists | tables => exact nomatch read

theorem isStrict_readWidth : IsStrict readWidth where
  null _ := nofun
  covered covers read := by
    cases covers with
    | same => exact read
    | lists | tables => exact nomatch read

/-- What is left under a key by layering over settings, `m`, and over the same settings without
values, `h`.  The second shows where the first comes from: if it is nothing, then `m` is what was
there `below`, and else it is read as `m` is. -/
def Shows (below : Option Value) (m h : Value) : Prop :=
  Covers m h ∨ h = .null ∧ below = some m

/-- Relations between values that layering keeps, in dependence on what was there before. -/
structure Keeps (R : Option Value → Value → Value → Prop) : Prop where
  refl : ∀ below v, R below v v
  fresh : ∀ {below m h}, R none m h → R below m h
  setAll : ∀ {below m h} incoming, R below m h → R below (setAll incoming m) (setAll incoming h)
  setPath : ∀ {below m h} path v, R below m h → R below (setPath path v m) (setPath path v h)

section Shows

variable {below : Option Value} {m h : Value}

/-- A key that is set makes tables of both values, whatever is put under it. -/
theorem covers_put (shows : Shows below m h) (key : Text) {v w : Value}
    (alike : m = h ∨ entries m = [] ∧ entries h = [] → v = w) :
    Covers (.table (put (entries m) key v)) (.table (put (entries h) key w)) := by
  have grown : ∀ {es ds : List (Text × Value)}, (ds.map Prod.fst).Nodup →
      ds.map Prod.fst ⊆ es.map Prod.fst →
        Covers (.table (put es key v)) (.table (put ds key w)) := by
    intro es ds nodup keys
    have there : key ∈ (put ds key w).map Prod.fst := by
      rw [keys_put]
      split
      · assumption
      · exact List.mem_concat_self
    refine .tables (fun none => ?_) ?_ fun k member => ?_
    · rw [none] at there
      exact absurd there List.not_mem_nil
    · rw [keys_put]
      split
      · exact nodup
      · rename_i missing
        exact List.nodup_append.mpr ⟨nodup, List.nodup_cons.mpr ⟨List.not_mem_nil, List.nodup_nil⟩,
          fun a member b last same => missing (List.mem_singleton.mp last ▸ same ▸ member)⟩
    · rw [keys_put] at member ⊢
      grind
  rcases shows with covers | ⟨rfl, -⟩
  · cases covers with
    | same => rw [alike (.inl rfl)]; exact .same _
    | lists => rw [alike (.inr ⟨rfl, rfl⟩)]; exact .same _
    | tables _ nodup keys => exact grown nodup keys
  · exact grown List.nodup_nil (List.nil_subset _)

theorem covers_setKey (shows : Shows below m h) (key : Text) (v : Value) :
    Covers (setKey key v m) (setKey key v h) := by
  rw [setKey_eq, setKey_eq]
  refine covers_put shows key ?_
  rintro (rfl | ⟨first, second⟩)
  · rfl
  · rw [first, second]

theorem covers_setPath (shows : Shows below m h) (step : KeyStep) (rest : List KeyStep)
    (v : Value) : Covers (setPath (step :: rest) v m) (setPath (step :: rest) v h) := by
  match step, rest with
  | .child key, [] =>
    rw [setPath, setPath]
    exact covers_setKey shows key v
  | .child key, next :: rest =>
    rw [setPath, setPath]
    · refine covers_put shows key ?_
      rintro (rfl | ⟨first, second⟩)
      · rfl
      · rw [first, second]
    · exact nofun
    · exact nofun
  | .index i, rest =>
    rw [setPath, setPath]
    exact .lists _ _

/-- **Layering keeps showing where a value comes from.** -/
theorem keeps_shows : Keeps Shows where
  refl _ v := .inl (.same v)
  fresh := by
    rintro below m h (covers | ⟨-, impossible⟩)
    · exact .inl covers
    · exact nomatch impossible
  setAll {below m h} incoming shows := by
    induction incoming generalizing m h with
    | nil => exact shows
    | cons entry rest ih =>
      rw [setAll, setAll]
      exact ih (.inl (covers_setKey shows _ _))
  setPath {below m h} path v shows := by
    cases path with
    | nil => exact .inl (.same v)
    | cons step rest => exact .inl (covers_setPath shows step rest v)

end Shows

/-- A relation between the values under all keys and at all places. -/
structure Fieldwise (R : Option Value → Value → Value → Prop) (below : Option Value)
    (m h : Value) : Prop where
  key : ∀ k, Option.Rel (R (valueAt? (entries (below.getD .null)) k))
    (valueAt? (entries m) k) (valueAt? (entries h) k)
  place : ∀ j : Nat, Option.Rel (R (items (below.getD .null))[j]?) (items m)[j]? (items h)[j]?

section Rel

variable {r q : Value → Value → Prop} {a b : Option Value}

theorem rel_getD (related : Option.Rel r a b) {v : Value} (otherwise : r v v) :
    r (a.getD v) (b.getD v) := by
  cases related with
  | none => exact otherwise
  | some both => exact both

theorem rel_imp (related : Option.Rel r a b) (implies : ∀ {v w}, r v w → q v w) :
    Option.Rel q a b := by
  cases related with
  | none => exact .none
  | some both => exact .some (implies both)

theorem rel_map (related : Option.Rel r a b) {change : Value → Value}
    (kept : ∀ {v w}, r v w → q (change v) (change w)) :
    Option.Rel q (a.map change) (b.map change) := by
  cases related with
  | none => exact .none
  | some both => exact .some (kept both)

theorem rel_or {c d : Option Value} (first : Option.Rel r a b) (second : Option.Rel r c d) :
    Option.Rel r (a.or c) (b.or d) := by
  cases first with
  | none => exact second
  | some both => exact .some both

theorem rel_bind {f g : Value → Option Value} (related : Option.Rel r a b)
    (each : ∀ v w, r v w → Option.Rel q (f v) (g w)) : Option.Rel q (a.bind f) (b.bind g) := by
  cases related with
  | none => exact .none
  | some both => exact each _ _ both

theorem eq_none_iff_of_rel (related : Option.Rel r a b) : a = none ↔ b = none := by
  cases related with
  | none => exact Iff.rfl
  | some => exact iff_of_false nofun nofun

end Rel

section Fieldwise

variable {R : Option Value → Value → Value → Prop} {below : Option Value} {m h : Value}

theorem Keeps.rel_refl (keeps : Keeps R) (below : Option Value) (v : Option Value) :
    Option.Rel (R below) v v := by
  cases v with
  | none => exact .none
  | some v => exact .some (keeps.refl below v)

theorem Fieldwise.put (each : Fieldwise R below m h) (key : Text) {v w : Value}
    (both : R (valueAt? (entries (below.getD .null)) key) v w) :
    Fieldwise R below (.table (put (entries m) key v)) (.table (put (entries h) key w)) where
  place _ := .none
  key k := by
    rw [entries, entries, valueAt?_put, valueAt?_put]
    split
    · rename_i same
      subst same
      exact .some both
    · exact each.key k

variable (keeps : Keeps R)

include keeps

theorem Fieldwise.setKey (each : Fieldwise R below m h) (key : Text) (v : Value) :
    Fieldwise R below (setKey key v m) (setKey key v h) := by
  rw [setKey_eq, setKey_eq]
  refine each.put key ?_
  cases v with
  | table incoming => exact keeps.setAll incoming (rel_getD (each.key key) (keeps.refl _ _))
  | null | bool | int | real | text | moment | list => exact keeps.refl _ _

theorem Fieldwise.changeItem {vs ws : List Value} {before : Nat → Option Value}
    (each : ∀ j, Option.Rel (R (before j)) vs[j]? ws[j]?) (i : Int) {change : Value → Value}
    (kept : ∀ {b m h}, R b m h → R b (change m) (change h)) (j : Nat) :
    Option.Rel (R (before j)) (changeItem i change vs)[j]? (changeItem i change ws)[j]? := by
  have length : vs.length = ws.length := by
    have ends (n : Nat) : vs.length ≤ n ↔ ws.length ≤ n := by
      rw [← List.getElem?_eq_none_iff, ← List.getElem?_eq_none_iff]
      exact eq_none_iff_of_rel (each n)
    exact Nat.le_antisymm ((ends _).mpr (Nat.le_refl _)) ((ends _).mp (Nat.le_refl _))
  unfold Config.changeItem
  simp only [length, List.getElem?_modify, Option.map_eq_map]
  -- The lists are padded alike, so that what is changed is at the same place in both.
  have padded : ∀ n, Option.Rel (R (before j)) (vs ++ List.replicate n .null)[j]?
      (ws ++ List.replicate n .null)[j]? := by
    intro n
    by_cases inside : j < vs.length
    · rw [List.getElem?_append_left inside, List.getElem?_append_left (length ▸ inside)]
      exact each j
    · have outside := Nat.le_of_not_lt inside
      rw [List.getElem?_append_right outside, List.getElem?_append_right (length ▸ outside), length]
      exact keeps.rel_refl _ _
  refine rel_map (padded _) fun both => ?_
  split
  · exact kept both
  · exact both

/-- **What layering keeps between values, it keeps between tables and lists of them.** -/
theorem Keeps.fieldwise : Keeps (Fieldwise R) where
  refl below v := ⟨fun _ => keeps.rel_refl _ _, fun _ => keeps.rel_refl _ _⟩
  fresh each :=
    ⟨fun k => rel_imp (each.key k) keeps.fresh, fun j => rel_imp (each.place j) keeps.fresh⟩
  setAll {below m h} incoming each := by
    induction incoming generalizing m h with
    | nil => exact each
    | cons entry rest ih =>
      rw [Config.setAll, Config.setAll]
      exact ih (each.setKey keeps _ _)
  setPath {below m h} path v each := by
    match path with
    | [] => exact ⟨fun _ => keeps.rel_refl _ _, fun _ => keeps.rel_refl _ _⟩
    | [.child key] =>
      rw [Config.setPath, Config.setPath]
      exact each.setKey keeps key v
    | .child key :: next :: rest =>
      rw [Config.setPath, Config.setPath]
      · exact each.put key
          (keeps.setPath (next :: rest) v (rel_getD (each.key key) (keeps.refl _ _)))
      · exact nofun
      · exact nofun
    | .index i :: rest =>
      rw [Config.setPath, Config.setPath]
      exact ⟨fun _ => .none, Fieldwise.changeItem keeps each.place i (keeps.setPath rest v)⟩

end Fieldwise

end Config

end MarkdownDialects
