import MarkdownDialects.Proofs.Cli.Overrides
import MarkdownDialects.Proofs.Config.PlainFile

/-!
# Which option counts

A conversion is asked for by arguments, extra parameters and configured settings, and what comes
first in this order counts (`Cli.requested`).  A command line for `convert` runs the conversion that
is asked for in this sense, where every configured setting is that of the last file that gives one
(`Cli.run_eq_convertWith_requested`).
-/

namespace MarkdownDialects

namespace Cli

namespace Extras

variable (es : Extras)

/-- Extra parameters that can be applied: all of them are known, each setting is named once at most,
and the values fit their settings. -/
structure AreValid : Prop where
  known : ∀ e ∈ es, ∃ n ∈ widthNames ++ tightNames ++ setextNames, n.toList = e.1
  once : ∀ names ∈ [widthNames, tightNames, setextNames], es.GivesOnce names
  width : ∀ raw ∈ es.under? widthNames, (Numeral.parse? raw).isSome
  flags : ∀ names ∈ [tightNames, setextNames], ∀ raw ∈ es.under? names, (truth? raw).isSome

variable {es}

theorem AreValid.valuesFit (valid : es.AreValid) : es.ValuesFit := ⟨valid.width, valid.flags⟩

/-- Valid extra parameters are all taken. -/
theorem AreValid.leftOver_eq_nil (valid : es.AreValid) : es.leftOver = [] := by
  refine List.eq_nil_iff_forall_not_mem.mpr fun e left => ?_
  obtain ⟨member, unknown | repeated⟩ := mem_leftOver_iff.mp left
  · exact unknown (valid.known e member)
  · exact givesOnce_iff_not_isRepeated.mp valid.once e.1 (List.mem_map_of_mem member) repeated

end Extras

theorem loadSettings_of_areValid {fs : FileSystem} {config : Option Text} {es : Extras}
    (valid : es.AreValid) {base : Settings}
    (loads : Config.load (configLayers fs config) = .ok base) :
    loadSettings fs config es =
      .ok { base with convert := overridden es base.convert } := by
  rw [loadSettings_of_valuesFit valid.valuesFit loads, valid.leftOver_eq_nil]
  rfl

/-- A command line for `convert` runs the conversion, once its settings are loaded. -/
theorem run_eq_runConvert {args rest : List Text} {es : Extras} {i : Invocation}
    {a : ConvertArguments} {w : Surroundings} {s : Settings}
    (split : splitExtras args = (rest, es)) (parsed : parseCommandLine rest = .ok i)
    (noList : i.listDialects = false) (command : i.command = some (.convert a))
    (loads : loadSettings w.files i.config es = .ok s) : run args w = runConvert w s a := by
  rw [run_eq_runInvocation split parsed, runInvocation, if_neg (by simp [noList]), loads, command]
  rfl

/-- What a conversion is asked for.  Arguments count first, then extra parameters, then the
configured settings; a source that is not given is the dialect that the name of the input shows. -/
def requested (a : ConvertArguments) (es : Extras) (configured : ConvertSettings) (input : Text) :
    ConvertRequest where
  input
  source :=
    (a.source.or (if a.input = stdinPath then none else Registry.withDefaults.detect? a.input)).getD
      configured.source
  target := a.target.getD configured.target
  options :=
    { wrapWidth := a.wrap.or <| match es.width? with
        | some n => if n = 0 then none else some n
        | none => if configured.wrap then some configured.wrapWidth else none
      tightenLists :=
        if a.tightLists then true else (es.flag? tightNames).getD configured.tightenLists
      setextHeadings :=
        if a.setext then true else (es.flag? setextNames).getD configured.setextHeadings }

theorem convertRequest_overridden (a : ConvertArguments) (es : Extras) (c : ConvertSettings)
    (input : Text) : convertRequest a (overridden es c) input = requested a es c input := by
  have options : (overridden es c).options =
      ⟨match es.width? with
        | some n => if n = 0 then none else some n
        | none => if c.wrap then some c.wrapWidth else none,
        (es.flag? tightNames).getD c.tightenLists,
        (es.flag? setextNames).getD c.setextHeadings⟩ := by
    unfold overridden ConvertSettings.options
    cases es.width? with
    | none => rfl
    | some n => cases n <;> rfl
  have flag (given otherwise : Bool) :
      (given || otherwise) = if given then true else otherwise := by
    cases given <;> rfl
  unfold convertRequest requested conversionOptions
  rw [options]
  simp only [Option.orElse_eq_or, flag]
  rfl

/-- Read the input, convert it as it is asked for, and write the output. -/
def convertWith (w : Surroundings) (a : ConvertArguments) (request : Text → ConvertRequest) :
    Running Unit := do
  let input ← Running.lift (readInput w a.input)
  let output ← Running.lift ((({} : Converter).run (request input)).mapError Failure.convert)
  if a.save then writeFile w.files (savedFileName (request input).target) output
  else emit w.files a.output output

/-- The texts of the configuration files that are there: the file of the directory and the one that
is asked for. -/
def configFiles (fs : FileSystem) (config : Option Text) : List Text :=
  (configText? fs userConfigFile).toList ++ (config.bind (configText? fs)).toList

theorem filterMap_configLayers (fs : FileSystem) (config : Option Text) :
    (configLayers fs config).filterMap Config.Layer.content? = configFiles fs config := by
  unfold configLayers configFiles
  cases config with
  | none => cases configText? fs userConfigFile <;> rfl
  | some path =>
    rw [Option.bind_some, Option.map_some]
    cases configText? fs userConfigFile <;> cases configText? fs path <;> rfl

/-- **Which option counts.**  A command line for `convert` that asks for no list of dialects and has
valid extra parameters runs the conversion that its arguments, the extra parameters and the
configured settings ask for, in this order, if the configuration can be loaded.  Each configured
setting is the one of the file that `--config` names if that gives one, or else of the file in the
directory, or else the built-in one.  Plain files can be loaded whenever all these can be read. -/
theorem run_eq_convertWith_requested {args rest : List Text} {es : Extras} {i : Invocation}
    {a : ConvertArguments} {w : Surroundings} (split : splitExtras args = (rest, es))
    (parsed : parseCommandLine rest = .ok i) (noList : i.listDialects = false)
    (command : i.command = some (.convert a)) (valid : es.AreValid) (configured : Settings) :
    (Config.load (configLayers w.files i.config) = .ok configured →
      run args w = convertWith w a (requested a es configured.convert) ∧
        Config.IsConfigured (configFiles w.files i.config) configured) ∧
    ((∀ l ∈ configLayers w.files i.config, l.IsPlain) →
      Config.IsConfigured (configFiles w.files i.config) configured →
        run args w = convertWith w a (requested a es configured.convert)) := by
  have files : ∀ l ∈ configLayers w.files i.config, ∃ c r, l = Config.Layer.file c r := by
    unfold configLayers
    cases i.config <;> simp
  have runs (loads : Config.load (configLayers w.files i.config) = .ok configured) :
      run args w = convertWith w a (requested a es configured.convert) := by
    rw [run_eq_runConvert split parsed noList command (loadSettings_of_areValid valid loads)]
    unfold runConvert convertWith
    simp only [convertRequest_overridden]
  rw [← filterMap_configLayers]
  exact ⟨fun loads => ⟨runs loads, Config.isConfigured_of_load files loads⟩,
    fun plain reads => runs ((Config.load_eq_ok_iff plain).mpr reads)⟩

/-- A directory with two configuration files: one that is read if it is there, and one to ask
for. -/
def twoConfigFiles : FileSystem :=
  (⟨[("mdbabel.toml".toList,
      "[convert]\nwrap = true\nto = \"gfm\"\nsetext_headings = true\n".toUTF8.toList),
    ("c.toml".toList, "[convert]\nto = \"reddit\"\nwrap_width = 72\n".toUTF8.toList)]⟩ :
    Directory).fileSystem

/-- An extra parameter switches the configured width off, the target comes from the file that is
asked for, the source from the name of the input, and the headings are not underlined although the
file of the directory says so. -/
theorem run_eq_convertWith_requested_of_two_files :
    let args := ["a.mmd".toList, "--config".toList, "c.toml".toList, "--extra-wrap".toList,
      ['0'], "--extra-tight-lists".toList, "--extras-setext".toList, "No".toList]
    let rest := ["a.mmd".toList, "--config".toList, "c.toml".toList]
    let es : Extras := [("wrap".toList, ['0']), ("tight-lists".toList, "true".toList),
      ("setext".toList, "No".toList)]
    let a : ConvertArguments := ⟨"a.mmd".toList, none, none, none, false, none, false, false⟩
    let i : Invocation := ⟨false, some "c.toml".toList, some (.convert a)⟩
    let w : Surroundings := ⟨[], twoConfigFiles⟩
    let configured : Settings := { convert := ⟨.gfm, .reddit, true, 72, false, true⟩ }
    (splitExtras args = (rest, es) ∧ parseCommandLine rest = .ok i ∧ i.listDialects = false ∧
      i.command = some (.convert a) ∧ es.AreValid ∧
      Config.load (configLayers w.files i.config) = .ok configured ∧
      ∀ l ∈ configLayers w.files i.config, l.IsPlain) ∧
    run args w = convertWith w a (fun input =>
      ⟨input, .multiMarkdown, .reddit, ⟨none, true, false⟩⟩) ∧
    Config.IsConfigured (configFiles w.files i.config) configured := by
  intro args rest es a i w configured
  have split : splitExtras args = (rest, es) := by decide
  have parsed : parseCommandLine rest = .ok i := by decide +kernel
  have valid : es.AreValid :=
    { known := by decide
      once := by unfold Extras.GivesOnce; decide
      width := by decide
      flags := by decide }
  have loads : Config.load (configLayers w.files i.config) = .ok configured := by decide +kernel
  have asked : requested a es configured.convert = fun input =>
      ⟨input, .multiMarkdown, .reddit, ⟨none, true, false⟩⟩ := rfl
  have plain : ∀ l ∈ configLayers w.files i.config, l.IsPlain := by decide +kernel
  refine ⟨⟨split, parsed, rfl, rfl, valid, loads, plain⟩, ?_⟩
  rw [← asked]
  exact (run_eq_convertWith_requested split parsed rfl rfl valid configured).1 loads

end Cli

end MarkdownDialects
