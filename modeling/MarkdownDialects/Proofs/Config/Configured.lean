import MarkdownDialects.Config.Loader
import MarkdownDialects.Proofs.Config.Layering
import MarkdownDialects.Proofs.Effect

/-!
# Where settings come from

Files are laid over the built-in settings.  The value that a file gives for a setting is what it
puts in the place of nothing, when it is laid over settings with their values taken out
(`Config.Address.given?`); in a plain file that is what stands under the key of the setting.  Every
setting is read from the last file that gives it a value, and from the built-in settings if there is
none (`Config.isConfigured_of_load`).
-/

namespace MarkdownDialects

namespace Config

/-- A table or a list with all its values changed; any other value is taken out. -/
def mapFields (change : Value → Value) : Value → Value
  | .table es => .table (es.map fun e => (e.1, change e.2))
  | .list vs => .list (vs.map change)
  | _ => .null

/-- Settings with all their values taken out; the sections and the keys in them stay. -/
def blank : Value → Value := mapFields (mapFields fun _ => .null)

section MapFields

variable {R : Option Value → Value → Value → Prop} {change : Value → Value}

theorem valueAt?_map (es : List (Text × Value)) (change : Value → Value) (k : Text) :
    valueAt? (es.map fun e => (e.1, change e.2)) k = (valueAt? es k).map change := by
  simp [valueAt?, List.find?_map, Function.comp_def]

theorem rel_map_self {v : Option Value} (changed : ∀ w, R (some w) w (change w)) :
    Option.Rel (R v) v (v.map change) := by
  cases v with
  | none => exact .none
  | some w => exact .some (changed w)

/-- What holds between a value and the changed one holds fieldwise between tables and lists. -/
theorem fieldwise_mapFields (changed : ∀ v, R (some v) v (change v)) (v : Value) :
    Fieldwise R (some v) v (mapFields change v) := by
  cases v with
  | table es =>
    refine ⟨fun k => ?_, fun j => .none⟩
    rw [mapFields, entries, entries, valueAt?_map]
    exact rel_map_self changed
  | list vs =>
    refine ⟨fun k => .none, fun j => ?_⟩
    rw [mapFields, items, items, List.getElem?_map]
    exact rel_map_self changed
  | null | bool | int | real | text | moment => exact ⟨fun k => .none, fun j => .none⟩

theorem fieldwise_blank (root : Value) :
    Fieldwise (Fieldwise Shows) (some root) root (blank root) :=
  fieldwise_mapFields (fieldwise_mapFields fun _ => .inr ⟨rfl, rfl⟩) root

end MapFields

/-- A field is the value under its key or at its place; no value has both. -/
theorem field?_eq (name : String) (i : Nat) (v : Value) :
    field? name i v = (valueAt? (entries v) name.toList).or (items v)[i]? := by
  cases v with
  | table es => exact (Option.or_none).symm
  | list | null | bool | int | real | text | moment => rfl

theorem items_eq_nil_of_valueAt? {v w : Value} {k : Text}
    (there : valueAt? (entries v) k = some w) : items v = [] := by
  cases v with
  | table es => rfl
  | list | null | bool | int | real | text | moment => exact nomatch there

theorem Fieldwise.field? {R : Option Value → Value → Value → Prop} (keeps : Keeps R)
    {below : Option Value} {m h : Value} (each : Fieldwise R below m h) (name : String) (i : Nat) :
    Option.Rel (R (below.bind (field? name i))) (field? name i m) (field? name i h) := by
  have before : below.bind (Config.field? name i) = (valueAt? (entries (below.getD .null))
      name.toList).or (items (below.getD .null))[i]? := by
    rw [← field?_eq]
    cases below <;> rfl
  have key := each.key name.toList
  have place := each.place i
  rw [before, field?_eq, field?_eq]
  cases first : valueAt? (entries (below.getD .null)) name.toList with
  | some v =>
    rw [items_eq_nil_of_valueAt? first] at place
    rw [first] at key
    exact rel_or key (rel_imp place keeps.fresh)
  | none =>
    rw [first] at key
    exact rel_or (rel_imp key keeps.fresh) place

/-- Where a setting stands: the key of its section and its own key there, each with the place that
counts where a list stands for the table. -/
structure Address where
  group : String
  groupPlace : Nat
  name : String
  place : Nat

namespace Address

/-- The address of a setting for conversions. -/
def ofConvert (name : String) (place : Nat) : Address := ⟨"convert", 0, name, place⟩

/-- The value of a setting. -/
def value? (a : Address) (root : Value) : Option Value :=
  (Config.field? a.group a.groupPlace root).bind (Config.field? a.name a.place)

end Address

/-- Lay a file over settings.  One that is no valid document changes nothing. -/
def lay (below : Value) (content : Text) : Value :=
  ((Toml.parse? content).getD []).foldl (fun root e => layEntry root e.1 e.2) below

namespace Address

/-- Whether a value is more than nothing. -/
def isGiven : Value → Bool
  | .null => false
  | _ => true

/-- The value that a file gives for a setting, laid over others: what it puts in the place of
nothing. -/
def given? (a : Address) (below : Value) (content : Text) : Option Value :=
  (a.value? (lay (blank below) content)).filter isGiven

/-- The value that the last of some files gives for a setting.  The files are laid over settings one
after the other. -/
def lastGiven? (a : Address) : Value → List Text → Option Value
  | _, [] => none
  | below, content :: above =>
    (a.lastGiven? (lay below content) above).or (a.given? below content)

/-- The configured value of a setting: that of the last file that gives one, or else the built-in
one. -/
def configured? (a : Address) (files : List Text) : Option Value :=
  (a.lastGiven? defaults files).or (a.value? defaults)

end Address

/-- A value is there and can be read. -/
def Reads {α : Type} (read : Reader α) (v : Option Value) (x : α) : Prop :=
  ∃ w, v = some w ∧ read w = .ok x

section Lay

variable {α : Type} {read : Reader α} (strict : IsStrict read) (a : Address) {below m h : Value}

theorem fieldwise_layEntry {below : Option Value}
    (each : Fieldwise (Fieldwise Shows) below m h) (key : Text) (v : Value) :
    Fieldwise (Fieldwise Shows) below (layEntry m key v) (layEntry h key v) := by
  unfold layEntry
  split
  · exact keeps_shows.fieldwise.fieldwise.setPath _ v each
  · exact each.setKey keeps_shows.fieldwise _ v

/-- A file laid over settings, and over the same settings without values, goes in step. -/
theorem fieldwise_lay (below : Value) (content : Text) :
    Fieldwise (Fieldwise Shows) (some below) (lay below content) (lay (blank below) content) := by
  have run : ∀ (es : List (Text × Value)) {m h : Value},
      Fieldwise (Fieldwise Shows) (some below) m h → Fieldwise (Fieldwise Shows) (some below)
        (es.foldl (fun root e => layEntry root e.1 e.2) m)
        (es.foldl (fun root e => layEntry root e.1 e.2) h) := by
    intro es
    induction es with
    | nil => exact fun each => each
    | cons e es ih => exact fun each => ih (fieldwise_layEntry each e.1 e.2)
  exact run _ (fieldwise_blank below)

theorem rel_value?_lay (below : Value) (content : Text) :
    Option.Rel (Shows (a.value? below)) (a.value? (lay below content))
      (a.value? (lay (blank below) content)) :=
  rel_bind ((fieldwise_lay below content).field? keeps_shows.fieldwise a.group a.groupPlace)
    fun _ _ each => each.field? keeps_shows a.name a.place

include strict

/-- **One file.**  What is read after a file is laid over settings is what the file gives, or else
what was there before. -/
theorem reads_of_lay {content : Text} {x : α}
    (reads : Reads read (a.value? (lay below content)) x) :
    Reads read ((a.given? below content).or (a.value? below)) x := by
  obtain ⟨m, there, ok⟩ := reads
  have related := rel_value?_lay a below content
  rw [there] at related
  unfold Address.given?
  generalize a.value? (lay (blank below) content) = found at related
  cases related with
  | @some _ h shows =>
    rcases shows with covers | ⟨rfl, before⟩
    · have alike := strict.covered covers ok
      have given : Address.isGiven h = true := by
        cases h with
        | null => exact absurd alike (strict.null x)
        | bool | int | real | text | moment | list | table => rfl
      exact ⟨h, by rw [Option.filter_some, if_pos given]; rfl, alike⟩
    · exact ⟨m, before, ok⟩

/-- **Files in a row.**  A setting is read from the last file that gives it a value, or else from
what was there before. -/
theorem reads_of_foldl_lay {files : List Text} {x : α}
    (reads : Reads read (a.value? (files.foldl lay below)) x) :
    Reads read ((a.lastGiven? below files).or (a.value? below)) x := by
  induction files generalizing below with
  | nil => exact reads
  | cons content above ih =>
    obtain ⟨w, found, ok⟩ := ih reads
    rw [Address.lastGiven?, Option.or_assoc]
    cases last : a.lastGiven? (lay below content) above with
    | some v =>
      rw [last] at found
      exact ⟨w, found, ok⟩
    | none =>
      rw [last] at found
      exact reads_of_lay strict a ⟨w, found, ok⟩

end Lay

/-- The text of a layer that is a file. -/
def Layer.content? : Layer → Option Text
  | .file content _ => content
  | .override _ _ => none

theorem layFile_some (below : Value) (content : Text) (required : Bool) :
    layFile below (some content) required = match Toml.parse? content with
      | some _ => .ok (lay below content)
      | none => .error .badFile := by
  rewrite [layFile, lay]
  cases Toml.parse? content <;> rfl

/-- Files that can all be laid over settings are laid over them in order. -/
theorem foldl_lay_of_layFiles {layers : List Layer} {below root : Value}
    (laid : layFiles below layers = .ok root) :
    root = (layers.filterMap Layer.content?).foldl lay below := by
  induction layers generalizing below with
  | nil => exact (Except.ok.inj laid).symm
  | cons layer rest ih =>
    match layer with
    | .override key v => exact ih laid
    | .file none required =>
      obtain ⟨next, first, others⟩ := Effect.bind_eq_ok_iff.mp laid
      rw [ih others]
      cases required with
      | false => rw [← Except.ok.inj first]; rfl
      | true => exact nomatch first
    | .file (some content) required =>
      obtain ⟨next, first, others⟩ := Effect.bind_eq_ok_iff.mp laid
      rw [layFile_some] at first
      rw [ih others]
      split at first
      · rw [← Except.ok.inj first]; rfl
      · exact nomatch first

/-- Every setting is read from the configured value. -/
structure IsConfigured (files : List Text) (s : Settings) : Prop where
  source : Reads readDialect ((Address.ofConvert "from" 0).configured? files) s.convert.source
  target : Reads readDialect ((Address.ofConvert "to" 1).configured? files) s.convert.target
  wrap : Reads readBool ((Address.ofConvert "wrap" 2).configured? files) s.convert.wrap
  wrapWidth :
    Reads readWidth ((Address.ofConvert "wrap_width" 3).configured? files) s.convert.wrapWidth
  tightenLists :
    Reads readBool ((Address.ofConvert "tighten_lists" 4).configured? files) s.convert.tightenLists
  setextHeadings :
    Reads readBool ((Address.ofConvert "setext_headings" 5).configured? files)
      s.convert.setextHeadings
  previewDialect :
    Reads readDialect ((Address.mk "preview" 1 "dialect" 0).configured? files) s.previewDialect

theorem readField_eq_ok_iff {α : Type} {read : Reader α} {v : Option Value} {x : α} :
    readField read v = .ok (some x) ↔ Reads read v x := by
  cases v with
  | none => exact iff_of_false nofun fun ⟨_, impossible, _⟩ => Option.some_ne_none _ impossible.symm
  | some w =>
    refine Effect.bind_eq_ok_iff.trans ⟨?_, ?_⟩
    · rintro ⟨y, found, same⟩
      obtain rfl : y = x := Option.some.inj (Except.ok.inj same)
      exact ⟨w, rfl, found⟩
    · rintro ⟨other, there, found⟩
      obtain rfl := Option.some.inj there
      exact ⟨x, found, rfl⟩

theorem readConvert_eq_ok_iff {v : Value} {c : ConvertSettings} :
    readConvert v = .ok c ↔
      Reads readDialect (field? "from" 0 v) c.source ∧
        Reads readDialect (field? "to" 1 v) c.target ∧
        Reads readBool (field? "wrap" 2 v) c.wrap ∧
        Reads readWidth (field? "wrap_width" 3 v) c.wrapWidth ∧
        Reads readBool (field? "tighten_lists" 4 v) c.tightenLists ∧
        Reads readBool (field? "setext_headings" 5 v) c.setextHeadings := by
  simp only [← readField_eq_ok_iff, readConvert, Effect.bind_eq_ok_iff]
  constructor
  · rintro ⟨source, source', target, target', wrap, wrap', width, width', tighten, tighten', setext,
      setext', ok⟩
    split at ok
    · obtain rfl := Except.ok.inj ok
      exact ⟨source', target', wrap', width', tighten', setext'⟩
    · cases ok
  · rintro ⟨source, target, wrap, width, tighten, setext⟩
    exact ⟨_, source, _, target, _, wrap, _, width, _, tighten, _, setext, rfl⟩

theorem readPreview_eq_ok_iff {v : Value} {id : DialectId} :
    readPreview v = .ok id ↔ Reads readDialect (field? "dialect" 0 v) id := by
  rw [← readField_eq_ok_iff, readPreview, Effect.bind_eq_ok_iff]
  constructor
  · rintro ⟨found, field, ok⟩
    cases found with
    | none => cases ok
    | some other =>
      obtain rfl := Except.ok.inj ok
      exact field
  · exact fun field => ⟨_, field, rfl⟩

/-- Settings are read if both sections are. -/
theorem readSettings_eq_ok_iff {root : Value} {s : Settings} :
    readSettings root = .ok s ↔ Reads readConvert (field? "convert" 0 root) s.convert ∧
      Reads readPreview (field? "preview" 1 root) s.previewDialect := by
  simp only [← readField_eq_ok_iff, readSettings, Effect.bind_eq_ok_iff]
  constructor
  · rintro ⟨convert, convert', preview, preview', ok⟩
    split at ok
    · obtain rfl := Except.ok.inj ok
      exact ⟨convert', preview'⟩
    · cases ok
  · rintro ⟨convert, preview⟩
    exact ⟨_, convert, _, preview, rfl⟩

theorem overrides_of_files {layers : List Layer} (files : ∀ l ∈ layers, ∃ c r, l = .file c r) :
    overrides layers = .ok [] := by
  induction layers with
  | nil => rfl
  | cons layer rest ih =>
    obtain ⟨⟨content, required, rfl⟩, others⟩ := List.forall_mem_cons.mp files
    exact ih others

/-- **Settings that are loaded from files are the configured ones**, each for itself. -/
theorem isConfigured_of_load {layers : List Layer} {s : Settings}
    (files : ∀ l ∈ layers, ∃ c r, l = .file c r) (loads : load layers = .ok s) :
    IsConfigured (layers.filterMap Layer.content?) s := by
  rw [load, overrides_of_files files] at loads
  obtain ⟨root, laid, read⟩ : ∃ root, layFiles defaults layers = .ok root ∧
      readSettings root = .ok s := Effect.bind_eq_ok_iff.mp loads
  rw [foldl_lay_of_layFiles laid] at read
  obtain ⟨⟨v, convertThere, convertRead⟩, ⟨u, previewThere, previewRead⟩⟩ :=
    readSettings_eq_ok_iff.mp read
  obtain ⟨source, target, wrap, width, tighten, setext⟩ := readConvert_eq_ok_iff.mp convertRead
  have inConvert {α : Type} {read : Reader α} (strict : IsStrict read) {name : String} {i : Nat}
      {x : α} (reads : Reads read (field? name i v) x) : Reads read
        ((Address.ofConvert name i).configured? (layers.filterMap Layer.content?)) x := by
    refine reads_of_foldl_lay strict _ ?_
    rw [Address.value?, Address.ofConvert, convertThere]
    exact reads
  have inPreview : Reads readDialect ((Address.mk "preview" 1 "dialect" 0).configured?
      (layers.filterMap Layer.content?)) s.previewDialect := by
    refine reads_of_foldl_lay isStrict_readDialect _ ?_
    rw [Address.value?, previewThere]
    exact readPreview_eq_ok_iff.mp previewRead
  exact ⟨inConvert isStrict_readDialect source, inConvert isStrict_readDialect target,
    inConvert isStrict_readBool wrap, inConvert isStrict_readWidth width,
    inConvert isStrict_readBool tighten, inConvert isStrict_readBool setext, inPreview⟩

end Config

end MarkdownDialects
