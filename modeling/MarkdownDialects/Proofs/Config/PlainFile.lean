import MarkdownDialects.Proofs.Config.Configured

/-!
# Plain configuration files

Most configuration files are plain: they consist of sections, and of single values in the sections.
Such a file gives a setting what stands under its key (`Config.Address.given?_of_isPlainFile`), and
every other setting stays as it was.  So plain files can be loaded exactly if every configured value
can be read (`Config.load_eq_ok_iff`).
-/

namespace MarkdownDialects

namespace Config

/-- Entries with keys in lower letters, each of which stands once. -/
structure HasPlainKeys (es : List (Text × Value)) : Prop where
  lower : ∀ e ∈ es, Text.lower e.1 = e.1
  nodup : (es.map Prod.fst).Nodup

/-- A value that is no table and not nothing. -/
def isSingle : Value → Bool
  | .null | .table _ => false
  | _ => true

/-- A table of single values. -/
def IsPlainSection : Value → Prop
  | .table ds => HasPlainKeys ds ∧ ∀ d ∈ ds, isSingle d.2 = true
  | _ => False

/-- A file of sections with single values.  No key of a section is a path. -/
structure IsPlainFile (es : List (Text × Value)) : Prop extends HasPlainKeys es where
  path : ∀ e ∈ es, path? e.1 = some [.child e.1]
  sections : ∀ e ∈ es, IsPlainSection e.2

theorem IsPlainSection.exists_table {v : Value} (plain : IsPlainSection v) :
    ∃ ds, v = .table ds ∧ HasPlainKeys ds ∧ ∀ d ∈ ds, isSingle d.2 = true := by
  cases v with
  | table ds => exact ⟨ds, rfl, plain⟩
  | null | bool | int | real | text | moment | list => exact plain.elim

instance (es : List (Text × Value)) : Decidable (HasPlainKeys es) :=
  decidable_of_iff ((∀ e ∈ es, Text.lower e.1 = e.1) ∧ (es.map Prod.fst).Nodup)
    ⟨fun ⟨lower, nodup⟩ => ⟨lower, nodup⟩, fun keys => ⟨keys.lower, keys.nodup⟩⟩

instance : DecidablePred IsPlainSection
  | .table ds => inferInstanceAs (Decidable (HasPlainKeys ds ∧ ∀ d ∈ ds, isSingle d.2 = true))
  | .null | .bool _ | .int _ | .real _ | .text _ | .moment _ | .list _ =>
    inferInstanceAs (Decidable False)

instance : DecidablePred IsPlainFile := fun es =>
  decidable_of_iff (HasPlainKeys es ∧ (∀ e ∈ es, path? e.1 = some [.child e.1]) ∧
      ∀ e ∈ es, IsPlainSection e.2)
    ⟨fun ⟨keys, path, sections⟩ => ⟨keys, path, sections⟩,
      fun plain => ⟨plain.toHasPlainKeys, plain.path, plain.sections⟩⟩

section Plain

variable {es : List (Text × Value)} {old v w : Value} {name : String} {i : Nat}

/-- A file whose keys are no paths is laid over settings as a table is set. -/
theorem lay_of_isPlainFile {content : Text} (parsed : Toml.parse? content = some es)
    (plain : IsPlainFile es) (below : Value) : lay below content = setAll es below := by
  rw [lay, parsed, Option.getD_some]
  have path := plain.path
  have lower := plain.lower
  clear parsed plain
  induction es generalizing below with
  | nil => rw [setAll]; rfl
  | cons e rest ih =>
    obtain ⟨single, others⟩ := List.forall_mem_cons.mp path
    obtain ⟨letters, lowers⟩ := List.forall_mem_cons.mp lower
    have first : layEntry below e.1 e.2 = setKey e.1 e.2 below := by
      simp only [layEntry, single, setPath]
    rw [List.foldl_cons, ih _ others lowers, first, setAll, letters]

theorem Address.isGiven_of_isSingle (single : isSingle v = true) : Address.isGiven v = true := by
  cases v with
  | null => cases single
  | table | bool | int | real | text | moment | list => rfl

theorem entries_mapFields (change : Value → Value) (v : Value) :
    entries (mapFields change v) = (entries v).map fun e => (e.1, change e.2) := by
  cases v <;> rfl

theorem mem_of_valueAt?_eq_some {k : Text} (there : valueAt? es k = some v) : (k, v) ∈ es := by
  obtain ⟨e, found, rfl⟩ := Option.map_eq_some_iff.mp there
  obtain rfl : e.1 = k := by simpa using List.find?_some found
  exact List.mem_of_find?_eq_some found

theorem exists_setAll_eq_table (es ds : List (Text × Value)) :
    ∃ fs, setAll es (.table ds) = .table fs := by
  induction es generalizing ds with
  | nil => exact ⟨ds, by rw [setAll]⟩
  | cons e rest ih =>
    rw [setAll, setKey_eq]
    exact ih _

theorem merged_of_isSingle (single : isSingle v = true) (before : Option Value) :
    merged v before = v := by
  cases v with
  | table => cases single
  | null | bool | int | real | text | moment | list => rfl

/-- **A section of a plain file** is set key by key. -/
theorem IsPlainFile.valueAt?_setAll (plain : IsPlainFile es) {key : Text}
    {ds : List (Text × Value)} (before : valueAt? (entries old) key = some (.table ds)) :
    ∃ fs, valueAt? (entries (setAll es old)) key = some (.table fs) ∧ ∀ k, valueAt? fs k =
      ((valueAt? es key).bind fun v => valueAt? (entries v) k).or (valueAt? ds k) := by
  rw [Config.valueAt?_setAll plain.lower plain.nodup, before]
  cases there : valueAt? es key with
  | none => exact ⟨ds, rfl, fun k => rfl⟩
  | some v =>
    obtain ⟨incoming, rfl, keys, singles⟩ :=
      (plain.sections _ (mem_of_valueAt?_eq_some there)).exists_table
    obtain ⟨fs, table⟩ := exists_setAll_eq_table incoming ds
    refine ⟨fs, congrArg some table, fun k => ?_⟩
    have each := Config.valueAt?_setAll keys.lower keys.nodup (.table ds) k
    rw [table] at each
    simp only [entries] at each ⊢
    rw [each, Option.bind_some]
    cases found : valueAt? incoming k with
    | none => rfl
    | some w =>
      have single : isSingle w = true := singles _ (mem_of_valueAt?_eq_some found)
      exact congrArg some (merged_of_isSingle single (valueAt? ds k))

theorem field?_of_valueAt? (there : valueAt? (entries v) name.toList = some w) (i : Nat) :
    field? name i v = some w := by
  rw [field?_eq, there, Option.some_or]

end Plain

/-- A section is there, and is a table. -/
def HasSection (root : Value) (group : String) : Prop :=
  ∃ ds, valueAt? (entries root) group.toList = some (.table ds)

theorem HasSection.lay {es : List (Text × Value)} {content : Text} {below : Value} {group : String}
    (there : HasSection below group) (parsed : Toml.parse? content = some es)
    (plain : IsPlainFile es) : HasSection (lay below content) group := by
  obtain ⟨ds, before⟩ := there
  obtain ⟨fs, now, -⟩ := plain.valueAt?_setAll before
  rw [lay_of_isPlainFile parsed plain]
  exact ⟨fs, now⟩

namespace Address

section Plain

variable (a : Address) {es ds : List (Text × Value)} {content : Text} {below : Value}

theorem value?_of_valueAt? {root : Value}
    (there : valueAt? (entries root) a.group.toList = some (.table ds)) :
    a.value? root = valueAt? ds a.name.toList := by
  rw [value?, field?_of_valueAt? there]
  rfl

theorem value?_of_isPlainFile (plain : IsPlainFile es) :
    a.value? (.table es) =
      (valueAt? es a.group.toList).bind fun v => valueAt? (entries v) a.name.toList := by
  cases there : valueAt? es a.group.toList with
  | none => rw [value?, field?_eq, entries, there]; rfl
  | some v =>
    obtain ⟨ds, rfl, -⟩ := (plain.sections _ (mem_of_valueAt?_eq_some there)).exists_table
    exact a.value?_of_valueAt? there

theorem isSingle_of_value? (plain : IsPlainFile es) {w : Value}
    (found : a.value? (.table es) = some w) : isSingle w = true := by
  rw [a.value?_of_isPlainFile plain] at found
  obtain ⟨v, there, named⟩ := Option.bind_eq_some_iff.mp found
  obtain ⟨ds, rfl, -, singles⟩ := (plain.sections _ (mem_of_valueAt?_eq_some there)).exists_table
  exact singles _ (mem_of_valueAt?_eq_some named)

variable (parsed : Toml.parse? content = some es) (plain : IsPlainFile es)
  (there : HasSection below a.group)

include parsed plain there

/-- A plain file sets what stands under the key of a setting. -/
theorem value?_lay : a.value? (lay below content) = (a.value? (.table es)).or (a.value? below) := by
  obtain ⟨ds, before⟩ := there
  obtain ⟨fs, now, each⟩ := plain.valueAt?_setAll before
  rw [lay_of_isPlainFile parsed plain, a.value?_of_valueAt? now, a.value?_of_valueAt? before,
    a.value?_of_isPlainFile plain, each]

/-- **A plain file gives what stands under the key of a setting.** -/
theorem given?_of_isPlainFile : a.given? below content = a.value? (.table es) := by
  obtain ⟨ds, before⟩ := there
  have blanked : valueAt? (entries (blank below)) a.group.toList =
      some (.table (ds.map fun e => (e.1, Value.null))) := by
    rw [blank, entries_mapFields, valueAt?_map, before]
    rfl
  rw [given?, a.value?_lay parsed plain ⟨_, blanked⟩, a.value?_of_valueAt? blanked,
    valueAt?_map ds fun _ => .null]
  cases given : a.value? (.table es) with
  | none => cases valueAt? ds a.name.toList <;> rfl
  | some w =>
    rw [Option.some_or, Option.filter_some, isGiven_of_isSingle (a.isSingle_of_value? plain given)]
    rfl

end Plain

end Address

/-- A layer that is a plain file, or a file that is not there and may be missing. -/
def Layer.IsPlain : Layer → Prop
  | .file (some content) _ => ∃ es ∈ Toml.parse? content, IsPlainFile es
  | .file none required => required = false
  | .override _ _ => False

instance : DecidablePred Layer.IsPlain
  | .file (some content) _ =>
    inferInstanceAs (Decidable (∃ es ∈ Toml.parse? content, IsPlainFile es))
  | .file none required => inferInstanceAs (Decidable (required = false))
  | .override _ _ => inferInstanceAs (Decidable False)

section Load

variable {layers : List Layer} (plain : ∀ l ∈ layers, l.IsPlain) {below : Value}

include plain

/-- Plain files can all be laid over settings. -/
theorem layFiles_eq_ok_of_isPlain :
    layFiles below layers = .ok ((layers.filterMap Layer.content?).foldl lay below) := by
  induction layers generalizing below with
  | nil => rfl
  | cons layer rest ih =>
    obtain ⟨first, others⟩ := List.forall_mem_cons.mp plain
    match layer, first with
    | .file none false, _ => exact ih others
    | .file (some content) required, ⟨es, parsed, _⟩ =>
      rw [layFiles, layFile_some, parsed]
      exact ih others

/-- **Plain files in a row.**  The value of a setting is that of the last file that gives one, or
else the one from before. -/
theorem value?_foldl_lay (a : Address) (there : HasSection below a.group) :
    HasSection ((layers.filterMap Layer.content?).foldl lay below) a.group ∧
      a.value? ((layers.filterMap Layer.content?).foldl lay below) =
        (a.lastGiven? below (layers.filterMap Layer.content?)).or (a.value? below) := by
  induction layers generalizing below with
  | nil => exact ⟨there, rfl⟩
  | cons layer rest ih =>
    obtain ⟨first, others⟩ := List.forall_mem_cons.mp plain
    match layer, first with
    | .file none false, _ => exact ih others there
    | .file (some content) required, ⟨es, parsed, single⟩ =>
      obtain ⟨kept, value⟩ := ih others (there.lay parsed single)
      refine ⟨kept, value.trans ?_⟩
      rw [a.value?_lay parsed single there, ← a.given?_of_isPlainFile parsed single there,
        ← Option.or_assoc]
      rfl

/-- **Plain files can be loaded exactly if every configured value can be read**, and the settings
are what is read. -/
theorem load_eq_ok_iff {s : Settings} :
    load layers = .ok s ↔ IsConfigured (layers.filterMap Layer.content?) s := by
  have files : ∀ l ∈ layers, ∃ c r, l = .file c r := fun l member =>
    match l, plain l member with
    | .file content required, _ => ⟨content, required, rfl⟩
  refine ⟨isConfigured_of_load files, fun configured => ?_⟩
  let root := (layers.filterMap Layer.content?).foldl lay defaults
  have value (a : Address) (there : HasSection defaults a.group) : HasSection root a.group ∧
      a.value? root = a.configured? (layers.filterMap Layer.content?) :=
    value?_foldl_lay plain a there
  have convertBefore : HasSection defaults "convert" := ⟨_, rfl⟩
  have previewBefore : HasSection defaults "preview" := ⟨_, rfl⟩
  obtain ⟨ds, convert⟩ := (value (.ofConvert "from" 0) convertBefore).1
  obtain ⟨fs, preview⟩ := (value ⟨"preview", 1, "dialect", 0⟩ previewBefore).1
  have convertThere : field? "convert" 0 root = some (.table ds) := field?_of_valueAt? convert 0
  have previewThere : field? "preview" 1 root = some (.table fs) := field?_of_valueAt? preview 1
  have inConvert {α : Type} {read : Reader α} {name : String} {i : Nat} {x : α}
      (reads : Reads read ((Address.ofConvert name i).configured?
        (layers.filterMap Layer.content?)) x) : Reads read (field? name i (.table ds)) x := by
    rw [← (value (.ofConvert name i) convertBefore).2, Address.value?, Address.ofConvert,
      convertThere] at reads
    exact reads
  have inPreview := configured.previewDialect
  rw [← (value ⟨"preview", 1, "dialect", 0⟩ previewBefore).2, Address.value?,
    previewThere] at inPreview
  have read : readSettings root = .ok s :=
    readSettings_eq_ok_iff.mpr ⟨⟨_, convertThere, readConvert_eq_ok_iff.mpr
      ⟨inConvert configured.source, inConvert configured.target, inConvert configured.wrap,
        inConvert configured.wrapWidth, inConvert configured.tightenLists,
        inConvert configured.setextHeadings⟩⟩,
      ⟨_, previewThere, readPreview_eq_ok_iff.mpr inPreview⟩⟩
  rw [load, overrides_of_files files]
  change (layFiles defaults layers >>= readSettings) = .ok s
  exact Effect.bind_eq_ok_iff.mpr ⟨root, layFiles_eq_ok_of_isPlain plain, read⟩

end Load

/-- What the second file does not set is taken from the first, or is built in. -/
example :
    (load [.file (some "[convert]\nto = \"reddit\"\nwrap = false".toList) false,
      .file (some "[convert]\nwrap = true".toList) true]).toOption =
        some { convert := { target := .reddit, wrap := true } } := by
  decide +kernel

end Config

end MarkdownDialects
