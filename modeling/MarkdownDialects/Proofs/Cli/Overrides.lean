import Mathlib.Data.Char
import Mathlib.Data.List.Find
import Mathlib.Data.List.Lex
import MarkdownDialects.Cli.Run
import MarkdownDialects.Proofs.Cli.ExtraArgs

/-!
# What extra parameters set

A setting has two names.  The value under the first of them that is given counts, and only this name
is taken out of the parameters (`Cli.Extras.takeExtra_eq`).  Parameters whose values fit their
settings are all applied (`Cli.applyExtras_of_valuesFit`).  Left over is what no setting takes: the
keys that name no setting, and the second name of a setting whose first name is given too
(`Cli.Extras.mem_leftOver_iff`).
-/

namespace MarkdownDialects

namespace Cli

/-- The names of the extra parameter for the width. -/
def widthNames : List String := ["wrap-width", "wrap"]

/-- The names of the extra parameter for tight lists. -/
def tightNames : List String := ["tight-lists", "tighten-lists"]

/-- The names of the extra parameter for underlined headings. -/
def setextNames : List String := ["setext", "setext-headings"]

/-- The names of each setting. -/
def settingNames : List (List String) := [widthNames, tightNames, setextNames]

/-- A key names a setting. -/
def IsKnown (key : Text) : Prop := ∃ n ∈ settingNames.flatten, n.toList = key

instance : DecidablePred IsKnown := fun key =>
  inferInstanceAs (Decidable (∃ n ∈ settingNames.flatten, n.toList = key))

/-- The truth value that a word stands for, in letters of any case. -/
def truth? (raw : Text) : Option Bool :=
  if ["true", "1", "yes", "y"].any (·.toList == Text.lower raw) then some true
  else if ["false", "0", "no", "n"].any (·.toList == Text.lower raw) then some false
  else none

theorem readFlag_of_truth? {raw : Text} {b : Bool} (word : truth? raw = some b) (name : String) :
    readFlag name raw = .ok b := by
  unfold truth? at word
  unfold readFlag
  dsimp only
  split at word
  · rename_i yes
    rw [if_pos yes, Option.some.inj word]
  · rename_i noYes
    rw [if_neg noYes]
    split at word
    · rename_i no
      rw [if_pos no, Option.some.inj word]
    · exact nomatch word

theorem mapM_readFlag {raw : Option Text} (word : ∀ t ∈ raw, (truth? t).isSome) (name : String) :
    raw.mapM (readFlag name) = .ok (raw.bind truth?) := by
  cases raw with
  | none => rfl
  | some t =>
    obtain ⟨b, found⟩ := Option.isSome_iff_exists.mp (word t rfl)
    rw [Option.bind_some, found]
    change (some <$> readFlag name t) = _
    rw [readFlag_of_truth? found]
    rfl

namespace Extras

variable (es : Extras)

/-- The value under the first of some names that is there. -/
def under? (names : List String) : Option Text := names.findSome? fun n => es.value? n.toList

/-- The key under which this value stands. -/
def taken? (names : List String) : Option Text :=
  (names.find? fun n => (es.value? n.toList).isSome).map String.toList

/-- The parameters besides the one that is taken under some names. -/
def besides (names : List String) : Extras := es.filter fun e => es.taken? names != some e.1

/-- The parameters that no setting takes. -/
def leftOver : Extras :=
  es.filter fun e => settingNames.all fun names => es.taken? names != some e.1

/-- The keys of the parameters that no setting takes, in order. -/
def leftKeys : List Text := (es.leftOver.map Prod.fst).mergeSort fun s t => !decide (t < s)

/-- A key is the second name of a setting whose first name is given too. -/
def IsRepeated (key : Text) : Prop :=
  ∃ first second, [first, second] ∈ settingNames ∧ second.toList = key ∧
    (es.value? first.toList).isSome

/-- Of the names of one setting at most one is given. -/
def GivesOnce (names : List String) : Prop :=
  ∀ m ∈ names, ∀ n ∈ names,
    (es.value? m.toList).isSome → (es.value? n.toList).isSome → m = n

/-- The values that count fit their settings. -/
structure ValuesFit : Prop where
  width : ∀ raw ∈ es.under? widthNames, (Numeral.parse? raw).isSome
  flags : ∀ names ∈ [tightNames, setextNames], ∀ raw ∈ es.under? names, (truth? raw).isSome

/-- The width that is given. -/
def width? : Option Nat := (es.under? widthNames).bind Numeral.parse?

/-- The truth value that is given for a setting with some names. -/
def flag? (names : List String) : Option Bool := (es.under? names).bind truth?

variable {es} {names others : List String} {key : Text}

theorem value?_isSome_of_mem {e : Text × Text} (member : e ∈ es) : (es.value? e.1).isSome :=
  (value?_isSome_iff es).mpr (List.mem_map_of_mem member)

theorem taken?_mem (taken : es.taken? names = some key) : ∃ n ∈ names, n.toList = key := by
  obtain ⟨n, found, rfl⟩ := Option.map_eq_some_iff.mp taken
  exact ⟨n, List.mem_of_find?_eq_some found, rfl⟩

/-- The value that counts is taken out, and nothing else. -/
theorem takeExtra_eq (es : Extras) (names : List String) :
    takeExtra es names = (es.under? names, es.besides names) := by
  unfold besides
  induction names with
  | nil => exact congrArg (Prod.mk none) (List.filter_true es).symm
  | cons name rest ih =>
    rw [takeExtra, under?, taken?, List.findSome?_cons, List.find?_cons]
    cases found : es.value? name.toList with
    | some value =>
      have same : es.remove name.toList = es.filter fun e => some name.toList != some e.1 :=
        List.filter_congr fun e _ => by rw [bne_comm]; rfl
      simp only [same, Option.isSome_some, Option.map_some]
    | none => exact ih

theorem value?_besides (other : ∀ n ∈ others, n.toList ≠ key) :
    (es.besides others).value? key = es.value? key := by
  have kept : es.taken? others ≠ some key := fun taken =>
    let ⟨n, member, same⟩ := taken?_mem taken
    other n member same
  unfold value? besides
  rw [List.find?_filter]
  congr 2
  funext e
  by_cases same : e.1 = key
  · subst same
    simpa using kept
  · simp [same]

section Besides

variable (different : ∀ n ∈ names, ∀ m ∈ others, m.toList ≠ n.toList)

include different

theorem under?_besides : (es.besides others).under? names = es.under? names := by
  unfold under?
  induction names with
  | nil => rfl
  | cons name rest ih =>
    rw [List.findSome?_cons, List.findSome?_cons,
      value?_besides (different name List.mem_cons_self),
      ih fun n later => different n (.tail _ later)]

theorem taken?_besides : (es.besides others).taken? names = es.taken? names := by
  unfold taken?
  congr 1
  exact List.find?_congr fun n member => by rw [value?_besides (different n member)]

end Besides

/-- Taking out the settings one after the other leaves what none of them takes. -/
theorem besides_all (es : Extras) :
    ((es.besides widthNames).besides tightNames).besides setextNames = es.leftOver := by
  have tight : (es.besides widthNames).taken? tightNames = es.taken? tightNames :=
    taken?_besides (by decide)
  have setext : ((es.besides widthNames).besides tightNames).taken? setextNames =
      es.taken? setextNames :=
    (taken?_besides (by decide)).trans (taken?_besides (by decide))
  rw [besides, setext, besides, tight, besides, List.filter_filter, List.filter_filter, leftOver]
  refine List.filter_congr fun e _ => ?_
  simp only [settingNames, List.all_cons, List.all_nil, Bool.and_true]
  ac_rfl

theorem exists_pair_of_mem (listed : names ∈ settingNames) :
    ∃ first second, names = [first, second] := by
  simp only [settingNames, widthNames, tightNames, setextNames, List.mem_cons, List.not_mem_nil,
    or_false] at listed
  rcases listed with rfl | rfl | rfl <;> exact ⟨_, _, rfl⟩

/-- No name is that of two settings. -/
theorem settingNames_disjoint :
    ∀ names ∈ settingNames, ∀ others ∈ settingNames, ∀ n ∈ names, n ∈ others → names = others := by
  decide

theorem ne_of_pair_mem {first second : String} (listed : [first, second] ∈ settingNames) :
    first ≠ second := by
  have distinct : ∀ names ∈ settingNames, names.Nodup := by decide
  simpa using distinct _ listed

theorem taken?_pair_eq_some_iff {first second : String} (given : (es.value? key).isSome) :
    es.taken? [first, second] = some key ↔
      first.toList = key ∨ second.toList = key ∧ ¬ (es.value? first.toList).isSome := by
  rw [taken?, List.find?_cons, List.find?_singleton]
  by_cases earlier : (es.value? first.toList).isSome
  · simp [earlier]
  · have other : first.toList ≠ key := fun same => earlier (same ▸ given)
    by_cases later : (es.value? second.toList).isSome
    · simp [earlier, later, other]
    · have neither : second.toList ≠ key := fun same => later (same ▸ given)
      simp [earlier, later, other, neither]

/-- No key is repeated exactly if each setting is given once at most. -/
theorem givesOnce_iff_not_isRepeated :
    (∀ names ∈ settingNames, es.GivesOnce names) ↔
      ∀ key ∈ es.map Prod.fst, ¬ es.IsRepeated key := by
  constructor
  · rintro once key member ⟨first, second, listed, rfl, earlier⟩
    have later := (value?_isSome_iff es).mpr member
    exact ne_of_pair_mem listed (once _ listed first (by simp) second (by simp) earlier later)
  · intro unrepeated names listed m first n second one two
    obtain ⟨a, b, rfl⟩ := exists_pair_of_mem listed
    have apart : (es.value? a.toList).isSome → ¬ (es.value? b.toList).isSome := fun one two =>
      unrepeated _ ((value?_isSome_iff es).mp two) ⟨a, b, listed, rfl, one⟩
    rcases List.mem_pair.mp first with rfl | rfl <;> rcases List.mem_pair.mp second with rfl | rfl
    · rfl
    · exact absurd two (apart one)
    · exact absurd one (apart two)
    · rfl

/-- The keys that settings take are their names, apart from those that are repeated. -/
theorem exists_taken?_iff (given : (es.value? key).isSome) :
    (∃ names ∈ settingNames, es.taken? names = some key) ↔ IsKnown key ∧ ¬ es.IsRepeated key := by
  constructor
  · rintro ⟨names, listed, taken⟩
    obtain ⟨n, named, rfl⟩ := taken?_mem taken
    refine ⟨⟨n, List.mem_flatten.mpr ⟨names, listed, named⟩, rfl⟩, ?_⟩
    rintro ⟨first, second, paired, same, earlier⟩
    obtain rfl := String.toList_inj.mp same
    obtain rfl := settingNames_disjoint _ paired _ listed second (by simp) named
    rcases (taken?_pair_eq_some_iff given).mp taken with twice | ⟨-, missing⟩
    · exact ne_of_pair_mem paired (String.toList_inj.mp twice)
    · exact missing earlier
  · rintro ⟨⟨n, member, rfl⟩, unrepeated⟩
    obtain ⟨names, listed, named⟩ := List.mem_flatten.mp member
    obtain ⟨first, second, rfl⟩ := exists_pair_of_mem listed
    refine ⟨_, listed, (taken?_pair_eq_some_iff given).mpr ?_⟩
    rcases List.mem_pair.mp named with rfl | rfl
    · exact .inl rfl
    · exact .inr ⟨rfl, fun earlier => unrepeated ⟨first, n, listed, rfl, earlier⟩⟩

/-- **What is left over** are the keys that name no setting, and the second name of a setting whose
first name is given too. -/
theorem mem_leftOver_iff {e : Text × Text} :
    e ∈ es.leftOver ↔ e ∈ es ∧ (¬ IsKnown e.1 ∨ es.IsRepeated e.1) := by
  rw [leftOver, List.mem_filter]
  refine and_congr_right fun member => ?_
  have taken := exists_taken?_iff (value?_isSome_of_mem member)
  have free : (settingNames.all fun names => es.taken? names != some e.1) = true ↔
      ¬ ∃ names ∈ settingNames, es.taken? names = some e.1 := by
    simp
  rw [free, taken, not_and_or, not_not]

theorem mem_leftKeys_iff :
    key ∈ es.leftKeys ↔ key ∈ es.map Prod.fst ∧ (¬ IsKnown key ∨ es.IsRepeated key) := by
  simp only [leftKeys, List.mem_mergeSort, List.mem_map, mem_leftOver_iff]
  constructor
  · rintro ⟨e, ⟨member, left⟩, rfl⟩
    exact ⟨⟨e, member, rfl⟩, left⟩
  · rintro ⟨⟨e, member, rfl⟩, left⟩
    exact ⟨e, ⟨member, left⟩, rfl⟩

theorem leftKeys_ne_nil_iff : es.leftKeys ≠ [] ↔ es.leftOver ≠ [] := by
  rw [leftKeys, ← List.length_pos_iff, ← List.length_pos_iff, List.length_mergeSort,
    List.length_map]

theorem leftOver_ne_nil_iff :
    es.leftOver ≠ [] ↔ ∃ key ∈ es.map Prod.fst, ¬ IsKnown key ∨ es.IsRepeated key := by
  rw [← leftKeys_ne_nil_iff, ← List.length_pos_iff, List.length_pos_iff_exists_mem]
  exact exists_congr fun _ => mem_leftKeys_iff

/-- The keys that are left over stand in the order of their letters, each of them once. -/
theorem pairwise_leftKeys (nodup : (es.map Prod.fst).Nodup) : es.leftKeys.Pairwise (· < ·) := by
  have sorted : es.leftKeys.Pairwise fun s t => (!decide (t < s)) = true :=
    List.pairwise_mergeSort (by simpa using fun a b c : Text => le_trans)
      (by simpa using fun a b : Text => le_total a b) _
  have distinct : es.leftKeys.Nodup :=
    (List.mergeSort_perm _ _).nodup_iff.mpr ((List.filter_sublist.map Prod.fst).nodup nodup)
  refine (sorted.and distinct).imp fun {s t} both => lt_of_le_of_ne ?_ both.2
  simpa using both.1

end Extras

/-- Settings for conversions with what extra parameters give in its place. -/
def overridden (es : Extras) (c : ConvertSettings) : ConvertSettings :=
  { c with
    wrap := es.width?.elim c.wrap (0 < ·)
    wrapWidth := es.width?.getD c.wrapWidth
    tightenLists := (es.flag? tightNames).getD c.tightenLists
    setextHeadings := (es.flag? setextNames).getD c.setextHeadings }

/-- **Extra parameters whose values fit** are applied, and the others are left over. -/
theorem applyExtras_of_valuesFit {es : Extras} (fit : es.ValuesFit) (s : Settings) :
    applyExtras s es = .ok ({ s with convert := overridden es s.convert }, es.leftOver) := by
  have width := Extras.takeExtra_eq es widthNames
  have tight := Extras.takeExtra_eq (es.besides widthNames) tightNames
  have setext := Extras.takeExtra_eq ((es.besides widthNames).besides tightNames) setextNames
  rw [Extras.under?_besides (by decide)] at tight
  rw [Extras.under?_besides (by decide), Extras.under?_besides (by decide),
    Extras.besides_all] at setext
  have tightFlag := mapM_readFlag (fit.flags tightNames (by decide)) "tight-lists"
  have setextFlag := mapM_readFlag (fit.flags setextNames (by decide)) "setext"
  rw [applyExtras, ← widthNames, ← tightNames, ← setextNames]
  simp only [width, tight, setext, tightFlag, setextFlag]
  unfold overridden Extras.width?
  cases given : es.under? widthNames with
  | none => rfl
  | some raw =>
    obtain ⟨n, read⟩ := Option.isSome_iff_exists.mp (fit.width raw given)
    simp only [read, Option.bind_some]
    rfl

/-- Settings are loaded if nothing is left over, and else the keys that are left over are
reported. -/
theorem loadSettings_of_valuesFit {fs : FileSystem} {config : Option Text} {es : Extras}
    (fit : es.ValuesFit) {base : Settings}
    (loads : Config.load (configLayers fs config) = .ok base) :
    loadSettings fs config es =
      if es.leftOver.isEmpty then .ok { base with convert := overridden es base.convert }
      else .error (.unknownParameters es.leftKeys) := by
  rw [loadSettings, loads]
  change (applyExtras base es >>= _) = _
  rw [applyExtras_of_valuesFit fit]
  rfl

/-- A command line that can be read runs what it says, with its extra parameters. -/
theorem run_eq_runInvocation {args rest : List Text} {es : Extras} {i : Invocation}
    {w : Surroundings} (split : splitExtras args = (rest, es))
    (parsed : parseCommandLine rest = .ok i) : run args w = runInvocation w i es := by
  unfold run
  simp only [split, parsed]

end Cli

end MarkdownDialects
