import Mathlib.Data.List.Sort
import MarkdownDialects.Dialect.Registry

/-!
# What a registry answers after any registrations

A registry is what its registrations made of it: under each id the dialect that came last
(`Registry.get?_registerAll`).  Everything it answers follows from this and from the order of
presentation; the order of registrations shows nowhere else (`Registry.registerAll_perm`).
-/

namespace MarkdownDialects

namespace DialectId

/-- The place of a dialect in the order of presentation. -/
def place (id : DialectId) : Nat := all.idxOf id

theorem mem_all (id : DialectId) : id ∈ all := by
  cases id <;> decide

theorem pairwise_place_all : all.Pairwise fun a b => a.place < b.place := by
  decide

theorem eq_of_place_eq {a b : DialectId} (same : a.place = b.place) : a = b :=
  (List.idxOf_inj (mem_all a)).mp same

end DialectId

/-- The first element with a property, in a list that is sorted by numbers, is the one with the
property and the least number. -/
theorem find?_eq_some_iff_of_pairwise {α : Type} {l : List α} {place : α → Nat} {p : α → Bool}
    {a : α} (sorted : l.Pairwise fun a b => place a < place b) :
    l.find? p = some a ↔ a ∈ l ∧ p a ∧ ∀ b ∈ l, place b < place a → p b = false := by
  rw [List.find?_eq_some_iff_append]
  constructor
  · rintro ⟨holds, before, after, rfl, none⟩
    refine ⟨by simp, holds, fun b member less => ?_⟩
    rcases List.mem_append.mp member with member | member
    · simpa using none b member
    · have later := (List.pairwise_cons.mp (List.pairwise_append.mp sorted).2.1).1
      rcases List.mem_cons.mp member with rfl | member
      · exact absurd less (lt_irrefl _)
      · exact absurd less (lt_asymm (later b member))
  · rintro ⟨member, holds, least⟩
    obtain ⟨before, after, rfl⟩ := List.append_of_mem member
    refine ⟨holds, before, after, rfl, fun b earlier => ?_⟩
    have less := (List.pairwise_append.mp sorted).2.2 b earlier a List.mem_cons_self
    simpa using least b (List.mem_append_left _ earlier) less

/-- A dialect claims a file extension, whatever the case of its letters. -/
def Dialect.Claims (d : Dialect) (suffix : Text) : Prop :=
  ∃ e ∈ d.extensions, Text.lowerAscii e.toList = Text.lowerAscii suffix

namespace Registry

/-- Register some dialects one after the other. -/
def registerAll (start : Registry) (ds : List Dialect) : Registry := ds.foldl register start

/-- The dialect that counts under an id after some registrations: the last of them under this id, or
else the one that was there before. -/
def latest? (start : Registry) (ds : List Dialect) (id : DialectId) : Option Dialect :=
  (ds.reverse.find? fun d => d.id = id).or (start.get? id)

theorem get?_withDefaults (id : DialectId) : withDefaults.get? id = some (.builtin id) := by
  cases id <;> rfl

@[ext]
theorem ext {r s : Registry} (same : ∀ id, r.get? id = s.get? id) : r = s := by
  cases r
  cases s
  congr
  exact funext same

variable (start : Registry) (ds : List Dialect)

/-- **What stands under an id is what was registered under it last.** -/
theorem get?_registerAll (id : DialectId) :
    (start.registerAll ds).get? id = latest? start ds id := by
  induction ds generalizing start with
  | nil => rfl
  | cons d rest ih =>
    rw [registerAll, List.foldl_cons, ← registerAll, ih, latest?, latest?, List.reverse_cons,
      List.find?_append, Option.or_assoc, get?_register]
    congr 1
    by_cases same : d.id = id
    · simp [same]
    · simp [same, Ne.symm same]

theorem latest?_isSome_iff {id : DialectId} :
    (latest? start ds id).isSome ↔ (∃ d ∈ ds, d.id = id) ∨ start.has id := by
  simp [latest?, has, List.find?_isSome]

theorem mem_ids_iff {r : Registry} {id : DialectId} : id ∈ r.ids ↔ r.has id := by
  simp [ids, DialectId.mem_all]

theorem mem_ids_of_get? {r : Registry} {id : DialectId} {d : Dialect} (stands : r.get? id = some d) :
    id ∈ r.ids := by
  rw [mem_ids_iff, has, stands]
  rfl

theorem pairwise_place_ids (r : Registry) : r.ids.Pairwise fun a b => a.place < b.place :=
  DialectId.pairwise_place_all.filter r.has

theorem nodup_ids (r : Registry) : r.ids.Nodup :=
  (pairwise_place_ids r).imp fun {a b} less same => by
    subst same
    exact lt_irrefl _ less

/-- In whatever order the registered ids are taken up, sorting them gives the same list. -/
theorem mergeSort_eq_ids {r : Registry} {keys : List DialectId} (nodup : keys.Nodup)
    (whole : ∀ id, id ∈ keys ↔ r.has id) :
    keys.mergeSort (fun a b => a.place ≤ b.place) = r.ids := by
  have sorted : (keys.mergeSort fun a b => decide (a.place ≤ b.place)).Pairwise
      fun a b => decide (a.place ≤ b.place) :=
    List.pairwise_mergeSort (by simpa using fun a b c : DialectId => le_trans)
      (by simp [Nat.le_total]) keys
  have listed : r.ids.Pairwise fun a b => decide (a.place ≤ b.place) :=
    (pairwise_place_ids r).imp fun less => decide_eq_true (le_of_lt less)
  refine List.Perm.eq_of_pairwise
    (fun a b _ _ le ge => DialectId.eq_of_place_eq ?_) sorted listed ?_
  · exact le_antisymm (of_decide_eq_true le) (of_decide_eq_true ge)
  · refine (List.mergeSort_perm keys _).trans ?_
    rw [List.perm_ext_iff_of_nodup nodup (nodup_ids r)]
    intro id
    rw [whole, mem_ids_iff]

theorem get_eq {r : Registry} {id : DialectId} :
    r.get id = match r.get? id with
      | some d => .ok d
      | none => .error (.unknownDialect id.name.toList) := rfl

theorem applyRules_eq {r : Registry} {id : DialectId} (direction : Direction) (t : Text) :
    r.applyRules direction id t = match r.get? id with
      | some d => .ok (RuleSet.apply (d.rules direction) t)
      | none => .error (.unknownDialect id.name.toList) := by
  rw [applyRules, get_eq]
  cases r.get? id <;> rfl

theorem detect?_eq_some_iff {r : Registry} {path : Text} {id : DialectId} :
    r.detect? path = some id ↔ ∃ suffix, extension? path = some suffix ∧
      (∃ d, r.get? id = some d ∧ d.Claims suffix) ∧
      ∀ other d, other.place < id.place → r.get? other = some d → ¬ d.Claims suffix := by
  have claims : ∀ suffix other, ((r.get? other).any fun d =>
      d.extensions.any fun e => Text.eqIgnoreAsciiCase e.toList suffix) ↔
        ∃ d, r.get? other = some d ∧ d.Claims suffix := by
    intro suffix other
    simp [Option.any_eq_true, Dialect.Claims, Text.eqIgnoreAsciiCase]
  rw [detect?, Option.bind_eq_bind, Option.bind_eq_some_iff]
  refine exists_congr fun suffix => and_congr_right fun _ => ?_
  rw [find?_eq_some_iff_of_pairwise (pairwise_place_ids r), claims]
  constructor
  · rintro ⟨-, found, least⟩
    refine ⟨found, fun other d earlier stands claimed => ?_⟩
    have claiming := (claims suffix other).mpr ⟨d, stands, claimed⟩
    rw [least other (mem_ids_of_get? stands) earlier] at claiming
    exact nomatch claiming
  · rintro ⟨⟨d, stands, claimed⟩, least⟩
    refine ⟨mem_ids_of_get? stands, ⟨d, stands, claimed⟩, ?_⟩
    intro other _ earlier
    rw [Bool.eq_false_iff]
    intro claiming
    obtain ⟨e, stands, claimed⟩ := (claims suffix other).mp claiming
    exact least other e earlier stands claimed

/-- Registrations under different ids may change places. -/
theorem register_comm (r : Registry) {d e : Dialect} (different : d.id ≠ e.id) :
    (r.register d).register e = (r.register e).register d := by
  ext1 id
  rw [get?_register, get?_register, get?_register, get?_register]
  split
  · rename_i same
    rw [if_neg (by rw [same]; exact different.symm)]
  · rfl

/-- Registrations under pairwise different ids may come in any order. -/
theorem registerAll_perm {ds others : List Dialect} (perm : ds.Perm others)
    (nodup : (ds.map Dialect.id).Nodup) : start.registerAll others = start.registerAll ds := by
  refine (perm.foldl_eq' (fun d first e second r => ?_) start).symm
  by_cases same : d.id = e.id
  · rw [List.inj_on_of_nodup_map nodup first second same]
  · exact register_comm r same

/-- **Everything a registry answers after any registrations.**  It lists the registered ids in the
order of presentation, each of them once, however they are taken up.  It has and hands out exactly
these, each as the dialect that was registered last, whose rules it applies; any other id is unknown.
The name of a file shows the first of them that claims its extension.  Registrations under pairwise
different ids may come in any order. -/
theorem registerAll_answers (start : Registry) (ds : List Dialect) :
    let r := start.registerAll ds
    let latest := latest? start ds
    (r.ids.Pairwise (fun a b => a.place < b.place) ∧
      (∀ id, id ∈ r.ids ↔ (∃ d ∈ ds, d.id = id) ∨ start.has id) ∧
      ∀ keys : List DialectId, keys.Nodup → (∀ id, id ∈ keys ↔ r.has id) →
        keys.mergeSort (fun a b => a.place ≤ b.place) = r.ids) ∧
    (∀ id, (r.has id ↔ id ∈ r.ids) ∧ ((∃ d, r.get id = .ok d) ↔ id ∈ r.ids)) ∧
    (∀ id d, latest id = some d → r.get id = .ok d ∧
      ∀ direction t, r.applyRules direction id t = .ok (RuleSet.apply (d.rules direction) t)) ∧
    (∀ id, latest id = none → r.get id = .error (.unknownDialect id.name.toList) ∧
      ∀ direction t, r.applyRules direction id t = .error (.unknownDialect id.name.toList)) ∧
    (∀ path id, r.detect? path = some id ↔ ∃ suffix, extension? path = some suffix ∧
      (∃ d, latest id = some d ∧ d.Claims suffix) ∧
      ∀ other d, other.place < id.place → latest other = some d → ¬ d.Claims suffix) ∧
    (∀ others : List Dialect, ds.Perm others → (ds.map Dialect.id).Nodup →
      start.registerAll others = r) := by
  intro r latest
  have stands : ∀ id, r.get? id = latest id := get?_registerAll start ds
  refine ⟨⟨pairwise_place_ids r, fun id => ?_, fun keys => mergeSort_eq_ids⟩,
    fun id => ⟨mem_ids_iff.symm, ?_⟩, fun id d found => ?_, fun id missing => ?_,
    fun path id => ?_, fun others => registerAll_perm start⟩
  · rw [mem_ids_iff, has, stands]
    exact latest?_isSome_iff start ds
  · rw [mem_ids_iff, has, get_eq]
    cases r.get? id <;> simp
  · refine ⟨?_, fun direction t => ?_⟩
    · rw [get_eq, stands, found]
    · rw [applyRules_eq, stands, found]
  · refine ⟨?_, fun direction t => ?_⟩
    · rw [get_eq, stands, missing]
    · rw [applyRules_eq, stands, missing]
  · simp only [detect?_eq_some_iff, stands]

/-- Two dialects with extensions of their own, in either order: the one that is listed later claims
`md`, and the id under which nothing is registered is unknown. -/
theorem registerAll_answers_of_two_dialects :
    let notes : Dialect := { id := .gfm, extensions := ["notes"] }
    let posts : Dialect := { id := .reddit, extensions := ["MD"] }
    let r := empty.registerAll [notes, posts]
    let keys : List DialectId := [.reddit, .gfm]
    (latest? empty [notes, posts] .gfm = some notes ∧ r.get .gfm = .ok notes) ∧
    (latest? empty [notes, posts] .obsidian = none ∧
      r.get .obsidian = .error (.unknownDialect "obsidian".toList)) ∧
    ((keys.Nodup ∧ ∀ id, id ∈ keys ↔ r.has id) ∧
      keys.mergeSort (fun a b => a.place ≤ b.place) = r.ids) ∧
    ([notes, posts].Perm [posts, notes] ∧ ([notes, posts].map Dialect.id).Nodup ∧
      empty.registerAll [posts, notes] = r) ∧
    r.detect? "page.md".toList = some .reddit := by
  intro notes posts r keys
  obtain ⟨⟨_, _, sorted⟩, _, found, missing, _, permuted⟩ :=
    registerAll_answers empty [notes, posts]
  have nodup : keys.Nodup := by decide
  have whole : ∀ id, id ∈ keys ↔ r.has id := by
    intro id
    cases id <;> decide
  have swapped : [notes, posts].Perm [posts, notes] := List.Perm.swap posts notes []
  have different : ([notes, posts].map Dialect.id).Nodup := by decide
  exact ⟨⟨rfl, (found .gfm notes rfl).1⟩, ⟨rfl, (missing .obsidian rfl).1⟩,
    ⟨⟨nodup, whole⟩, sorted keys nodup whole⟩,
    ⟨swapped, different, permuted [posts, notes] swapped different⟩, by decide⟩

end Registry

end MarkdownDialects
