import Mathlib.Data.List.Sort
import MarkdownDialects.Proofs.Cli.Failure
import MarkdownDialects.Proofs.Cli.Overrides

/-!
# Which parameters are reported as unknown

A run fails over extra parameters exactly if some are left over when every setting has taken its
value, and it names them all in order (`Cli.reportsUnknown_outcome_iff`).  These are the keys that
name no setting, and also the second name of a setting that is given under both: there a known name
is reported as unknown (`Cli.known_name_reported_as_unknown`).
-/

namespace MarkdownDialects

namespace Cli

open Effect

/-- A failure other than over unknown parameters. -/
def Failure.IsOther (failure : Failure) : Prop := ∀ keys, failure ≠ .unknownParameters keys

section FailsOther

variable {fs : FileSystem} {w : Surroundings} {s : Settings}

theorem failsOther_lift_mapError {ε α : Type} {cause : ε → Failure}
    (each : ∀ e, (cause e).IsOther) (result : Except ε α) :
    FailsOnly Failure.IsOther (Running.lift (result.mapError cause)) := by
  refine failsOnly_mk_pure fun e failed => ?_
  cases result with
  | ok a => exact nomatch failed
  | error reason =>
    cases failed
    exact each reason

theorem failsOther_readInput (path : Text) :
    FailsOnly Failure.IsOther (Running.lift (readInput w path)) := by
  unfold readInput
  split
  · refine failsOnly_mk_pure fun e failed => ?_
    split at failed
    · exact nomatch failed
    · cases failed
      exact fun _ => nofun
  · exact failsOther_lift_mapError (fun _ _ => by nofun) _

theorem failsOther_writeFile (path t : Text) :
    FailsOnly Failure.IsOther (writeFile fs path t) :=
  (failsOther_lift_mapError (fun _ _ => by nofun) _).bind fun _ => (isSafe_modify _).failsOnly

theorem failsOther_emit (output : Option Text) (t : Text) :
    FailsOnly Failure.IsOther (emit fs output t) := by
  cases output with
  | none => exact (isSafe_print _).failsOnly
  | some path => exact failsOther_writeFile path t

theorem failsOther_runConvert (a : ConvertArguments) :
    FailsOnly Failure.IsOther (runConvert w s a) := by
  refine (failsOther_readInput _).bind fun input => ?_
  refine (failsOther_lift_mapError (fun _ _ => by nofun) _).bind fun output => ?_
  split
  · exact failsOther_writeFile _ output
  · exact failsOther_emit a.output output

theorem failsOther_runPreview (a : PreviewArguments) :
    FailsOnly Failure.IsOther (runPreview w s a) :=
  (failsOther_readInput _).bind fun _ => failsOther_emit a.output _

end FailsOther

/-- The report of unknown parameters, each of them written in full. -/
def unknownReport (keys : List Text) : Text :=
  "Error: ".toList ++ ("Unknown parameter(s): ".toList ++
    ", ".toList.intercalate (keys.map ("--extra-".toList ++ ·))) ++ ['\n']

/-- A run reports unknown parameters. -/
def Outcome.ReportsUnknown (o : Outcome) : Prop := "Error: Unknown parameter(s)".toList <+: o.stderr

instance : DecidablePred Outcome.ReportsUnknown := fun o =>
  inferInstanceAs (Decidable ("Error: Unknown parameter(s)".toList <+: o.stderr))

/-- What stands in front of each part can be put into the separator. -/
theorem append_intercalate_append {keys : List Text} (nonempty : keys ≠ []) (front sep : Text) :
    front ++ (sep ++ front).intercalate keys = sep.intercalate (keys.map (front ++ ·)) := by
  induction keys with
  | nil => exact absurd rfl nonempty
  | cons key rest ih =>
    cases rest with
    | nil => simp
    | cons next later =>
      have behind := ih (List.cons_ne_nil _ _)
      rw [List.map_cons] at behind ⊢
      rw [List.map_cons, List.intercalate_cons_cons, List.intercalate_cons_cons, ← behind]
      simp only [List.append_assoc]

theorem message_unknownParameters {keys : List Text} (nonempty : keys ≠ []) :
    (Failure.unknownParameters keys).message = unknownReport keys := by
  have named : "Unknown parameter(s): --extra-".toList =
      "Unknown parameter(s): ".toList ++ "--extra-".toList := by decide
  have separated : ", --extra-".toList = ", ".toList ++ "--extra-".toList := by decide
  calc (Failure.unknownParameters keys).message
      = "Error: ".toList ++ ("Unknown parameter(s): --extra-".toList ++
          ", --extra-".toList.intercalate keys) ++ ['\n'] := rfl
    _ = "Error: ".toList ++ ("Unknown parameter(s): ".toList ++
          ", ".toList.intercalate (keys.map ("--extra-".toList ++ ·))) ++ ['\n'] := by
      rw [named, separated, List.append_assoc "Unknown parameter(s): ".toList,
        append_intercalate_append nonempty]
    _ = unknownReport keys := rfl

theorem not_isPrefix_of_isPrefixOf {front t : Text} (differs : front.isPrefixOf t = false) :
    ¬ front <+: t := by
  rw [← List.isPrefixOf_iff_prefix, differs]
  exact Bool.false_ne_true

/-- The text of a failure shows whether it is over unknown parameters. -/
theorem isPrefix_message_iff (failure : Failure) :
    "Error: Unknown parameter(s)".toList <+: failure.message ↔
      ∃ keys, failure = .unknownParameters keys := by
  -- What a text quotes stands behind the place where it differs from this one.
  cases failure with
  | unknownParameters keys => exact iff_of_true ⟨_, rfl⟩ ⟨keys, rfl⟩
  | convert e => cases e <;> exact iff_of_false (not_isPrefix_of_isPrefixOf rfl) nofun
  | usage => exact iff_of_false (by decide +kernel) nofun
  | noCommand | config | badWidth | badFlag | readInput | readFile | writeFile =>
    exact iff_of_false (not_isPrefix_of_isPrefixOf rfl) nofun

section Outcome

variable {args : List Text} {w : Surroundings}

theorem not_reportsUnknown_of_failsOther (other : FailsOnly Failure.IsOther (run args w)) :
    ¬ (outcome args w).ReportsUnknown := by
  unfold outcome Outcome.ReportsUnknown
  split
  · exact not_isPrefix_of_isPrefixOf rfl
  · rename_i failure trail ended
    rw [isPrefix_message_iff]
    rintro ⟨keys, rfl⟩
    exact other _ _ _ ended keys rfl

theorem outcome_of_throw {failure : Failure} (fails : run args w = throw failure) :
    outcome args w = ⟨failure.code, [], failure.message, []⟩ := by
  rw [outcome, fails]
  rfl

end Outcome

section Report

variable {args rest : List Text} {es : Extras} {i : Invocation} {w : Surroundings} {base : Settings}

/-- Where nothing is left over, a run fails over other things only. -/
theorem failsOther_runInvocation (fit : es.ValuesFit)
    (loads : Config.load (configLayers w.files i.config) = .ok base)
    (calm : i.listDialects = true ∨ es.leftOver = []) :
    FailsOnly Failure.IsOther (runInvocation w i es) := by
  unfold runInvocation
  split
  · exact (isSafe_listDialects _).failsOnly
  · rename_i noList
    have none : es.leftOver = [] := calm.resolve_left noList
    rw [loadSettings_of_valuesFit fit loads, none]
    refine FailsOnly.bind (failsOnly_mk_pure fun _ => nofun) fun s => ?_
    split
    · exact failsOther_runConvert _
    · exact failsOther_runPreview _
    · exact failsOnly_throw fun _ => nofun

/-- What is left over ends a run before its command. -/
theorem runInvocation_of_leftOver (fit : es.ValuesFit)
    (loads : Config.load (configLayers w.files i.config) = .ok base)
    (noList : i.listDialects = false) (left : es.leftOver ≠ []) :
    runInvocation w i es = throw (.unknownParameters es.leftKeys) := by
  rw [runInvocation, if_neg (by simp [noList]), loadSettings_of_valuesFit fit loads,
    if_neg (by simpa using left)]
  rfl

/-- **Which parameters are reported as unknown.**  A command line whose arguments can be read, whose
configuration can be loaded and whose values fit their settings reports unknown parameters exactly
if it asks for more than the list of dialects and has a key that names no setting, or is the second
name of a setting whose first name is given too.  Then nothing else is done, and the report names
exactly these keys in order.  So the keys that name no setting are all that is reported exactly if
each setting is given under one name at most. -/
theorem reportsUnknown_outcome_iff (split : splitExtras args = (rest, es))
    (parsed : parseCommandLine rest = .ok i)
    (loads : Config.load (configLayers w.files i.config) = .ok base) (fit : es.ValuesFit) :
    ((outcome args w).ReportsUnknown ↔ i.listDialects = false ∧
      ∃ key ∈ es.map Prod.fst, ¬ IsKnown key ∨ es.IsRepeated key) ∧
    ((outcome args w).ReportsUnknown → ∃ keys : List Text, keys.Pairwise (· < ·) ∧
      (∀ key, key ∈ keys ↔ key ∈ es.map Prod.fst ∧ (¬ IsKnown key ∨ es.IsRepeated key)) ∧
      outcome args w = ⟨1, [], unknownReport keys, []⟩) ∧
    ((∀ names ∈ settingNames, es.GivesOnce names) ↔
      ∀ key ∈ es.map Prod.fst, ¬ es.IsRepeated key) := by
  have same : run args w = runInvocation w i es := run_eq_runInvocation split parsed
  have nodup : (es.map Prod.fst).Nodup := by
    have distinct := nodup_keys_splitExtras args
    rwa [split] at distinct
  -- Either the run comes as far as its command or the list, or it ends over what is left.
  by_cases calm : i.listDialects = true ∨ es.leftOver = []
  · have silent : ¬ (outcome args w).ReportsUnknown :=
      not_reportsUnknown_of_failsOther (same ▸ failsOther_runInvocation fit loads calm)
    refine ⟨iff_of_false silent ?_, fun reports => absurd reports silent,
      Extras.givesOnce_iff_not_isRepeated⟩
    rintro ⟨noList, left⟩
    rw [noList] at calm
    exact Extras.leftOver_ne_nil_iff.mpr left (calm.resolve_left Bool.false_ne_true)
  · obtain ⟨noList, left⟩ := not_or.mp calm
    rw [Bool.not_eq_true] at noList
    have ends := outcome_of_throw (same.trans (runInvocation_of_leftOver fit loads noList left))
    have reports : (outcome args w).ReportsUnknown := by
      rw [ends]
      exact (isPrefix_message_iff _).mpr ⟨_, rfl⟩
    refine ⟨iff_of_true reports ⟨noList, Extras.leftOver_ne_nil_iff.mp left⟩, fun _ =>
      ⟨es.leftKeys, Extras.pairwise_leftKeys nodup, fun key => Extras.mem_leftKeys_iff, ?_⟩,
      Extras.givesOnce_iff_not_isRepeated⟩
    rw [ends, message_unknownParameters (Extras.leftKeys_ne_nil_iff.mpr left)]
    rfl

end Report

/-- Two keys that name no setting, one of them in capital letters, and a width under both names: the
second name stands between them in the report. -/
theorem reportsUnknown_outcome_iff_of_two_widths :
    let args := ["preview".toList, "a.md".toList, "--extra-zeta".toList, "--extra-wrap".toList,
      "60".toList, "--extras-Theme".toList, "dark".toList, "--extra-wrap-width".toList, ['0'],
      "--extra-setext".toList]
    let rest := ["preview".toList, "a.md".toList]
    let es : Extras := [("zeta".toList, "true".toList), ("wrap".toList, "60".toList),
      ("Theme".toList, "dark".toList), ("wrap-width".toList, ['0']),
      ("setext".toList, "true".toList)]
    let i : Invocation := ⟨false, none, some (.preview ⟨"a.md".toList, none, none⟩)⟩
    let w : Surroundings := ⟨[], (⟨[("mdbabel.toml".toList,
      "[preview]\ndialect = \"reddit\"\n".toUTF8.toList)]⟩ : Directory).fileSystem⟩
    (splitExtras args = (rest, es) ∧ parseCommandLine rest = .ok i ∧
      Config.load (configLayers w.files i.config) = .ok { previewDialect := .reddit } ∧
      es.ValuesFit) ∧
    outcome args w = ⟨1, [], unknownReport ["Theme".toList, "wrap".toList, "zeta".toList], []⟩ := by
  intro args rest es i w
  have split : splitExtras args = (rest, es) := by decide
  have parsed : parseCommandLine rest = .ok i := by decide +kernel
  have loads : Config.load (configLayers w.files i.config) =
      .ok { previewDialect := .reddit } := by decide +kernel
  have fit : es.ValuesFit := ⟨by decide, by decide⟩
  obtain ⟨reports, names, -⟩ := reportsUnknown_outcome_iff split parsed loads fit
  have zeta : ¬ IsKnown "zeta".toList := by decide
  obtain ⟨keys, sorted, exact, ends⟩ :=
    names (reports.mpr ⟨rfl, "zeta".toList, by decide, .inl zeta⟩)
  have left : es.leftOver.map Prod.fst = ["zeta".toList, "wrap".toList, "Theme".toList] := by
    decide
  have inOrder : keys = ["Theme".toList, "wrap".toList, "zeta".toList] := by
    refine sorted.eq_of_mem_iff (by decide) fun key => ?_
    rw [exact, ← Extras.mem_leftKeys_iff, Extras.leftKeys, List.mem_mergeSort, left,
      ← List.mem_reverse]
    rfl
  rw [inOrder] at ends
  exact ⟨⟨split, parsed, loads, fit⟩, ends⟩

/-- A known name is reported as unknown: the width is given under both of its names, with the same
value. -/
theorem known_name_reported_as_unknown :
    let args := [['-'], "--to".toList, "gfm".toList, "--extra-wrap-width".toList, "40".toList,
      "--extra-wrap".toList, "40".toList]
    let rest := [['-'], "--to".toList, "gfm".toList]
    let es : Extras := [("wrap-width".toList, "40".toList), ("wrap".toList, "40".toList)]
    let a : ConvertArguments := ⟨['-'], none, some .gfm, none, false, none, false, false⟩
    let i : Invocation := ⟨false, none, some (.convert a)⟩
    let w : Surroundings := ⟨"text".toUTF8.toList, (⟨[]⟩ : Directory).fileSystem⟩
    (splitExtras args = (rest, es) ∧ parseCommandLine rest = .ok i ∧
      Config.load (configLayers w.files i.config) = .ok {} ∧ es.ValuesFit ∧
      (∀ e ∈ es, Numeral.parse? e.2 = some 40) ∧ ∀ e ∈ es, IsKnown e.1) ∧
    (outcome args w).ReportsUnknown ∧
    outcome args w = ⟨1, [], unknownReport ["wrap".toList], []⟩ := by
  intro args rest es a i w
  have split : splitExtras args = (rest, es) := by decide
  have parsed : parseCommandLine rest = .ok i := by decide +kernel
  have loads : Config.load (configLayers w.files i.config) = .ok {} := by decide +kernel
  have fit : es.ValuesFit := ⟨by decide, by decide⟩
  have ends : outcome args w = ⟨1, [], unknownReport ["wrap".toList], []⟩ := by decide +kernel
  exact ⟨⟨split, parsed, loads, fit, by decide, by decide⟩, by rw [ends]; decide, ends⟩

end Cli

end MarkdownDialects
