import MarkdownDialects.Convert.Converter
import MarkdownDialects.Proofs.Dialect.Registry
import MarkdownDialects.Proofs.Effect

/-!
# When a conversion is refused

A run ends in one of six ways (`Converter.Ends`), and each of them says which collaborators were
called before it.  A width that is out of range and a source that is not registered are found before
any of them; a target that is not registered is found behind both
(`Converter.trace_of_malformed`).
-/

namespace MarkdownDialects

namespace Converting

variable {α : Type} (calls : List ConvertCall)

theorem run_liftExcept (result : Except ConvertError α) :
    (liftExcept result).run.run calls = (result, calls) := rfl

theorem run_pure (a : α) : (pure a : Converting α).run.run calls = (.ok a, calls) := rfl

end Converting

namespace Registry

/-- Rules run exactly when their dialect is registered. -/
theorem applyRules_of_has_eq_false {r : Registry} {id : DialectId} (unregistered : r.has id = false)
    (direction : Direction) (t : Text) :
    r.applyRules direction id t = .error (.unknownDialect id.name.toList) := by
  have none : r.get? id = none := by simpa [has] using unregistered
  rw [applyRules_eq, none]

theorem exists_applyRules_of_has {r : Registry} {id : DialectId} (registered : r.has id)
    (direction : Direction) (t : Text) : ∃ u, r.applyRules direction id t = .ok u := by
  obtain ⟨d, found⟩ := Option.isSome_iff_exists.mp registered
  exact ⟨RuleSet.apply (d.rules direction) t, by rw [applyRules_eq, found]⟩

end Registry

namespace ConversionOptions

/-- The options that are refused are those with a width that is neither zero nor in range. -/
theorem validate_eq_error_iff {o : ConversionOptions} {e : ConvertError} :
    o.validate = .error e ↔ ∃ width, o.wrapWidth = some width ∧ width ≠ 0 ∧
      ¬ (minWrapWidth ≤ width ∧ width ≤ maxWrapWidth) ∧ e = .invalidWrapWidth width := by
  unfold validate effectiveWrapWidth
  cases o.wrapWidth with
  | none => simp
  | some width =>
    by_cases zero : width = 0
    · subst zero
      have off : (some 0).filter (0 < ·) = none := rfl
      rw [off]
      simp
    · have wraps : (some width).filter (0 < ·) = some width := by simp; omega
      rw [wraps]
      by_cases inRange : minWrapWidth ≤ width ∧ width ≤ maxWrapWidth
      · simp only [if_pos inRange, Option.some.injEq]
        constructor
        · exact nofun
        · rintro ⟨_, rfl, _, outside, _⟩
          exact absurd inRange outside
      · simp only [if_neg inRange, Except.error.injEq, Option.some.injEq]
        constructor
        · rintro rfl
          exact ⟨width, rfl, zero, inRange, rfl⟩
        · rintro ⟨_, rfl, _, _, rfl⟩
          rfl

end ConversionOptions

namespace Converter

variable (c : Converter) (r : ConvertRequest)

/-- The ways a run ends, each with its result and the calls of collaborators made until then. -/
inductive Ends : Except ConvertError Text → List ConvertCall → Prop
  | badOptions {e : ConvertError} (refused : r.options.validate = .error e) : Ends (.error e) []
  | badSource {e : ConvertError} (valid : r.options.validate = .ok ())
      (refused : c.registry.preprocess r.source r.input = .error e) : Ends (.error e) []
  | renderFails {neutral : Text} {e : ConvertError} (valid : r.options.validate = .ok ())
      (read : c.registry.preprocess r.source r.input = .ok neutral)
      (failed : c.render neutral {} = .error e) : Ends (.error e) [.render neutral {}]
  | serializeFails {neutral html : Text} {e : ConvertError} (valid : r.options.validate = .ok ())
      (read : c.registry.preprocess r.source r.input = .ok neutral)
      (rendered : c.render neutral {} = .ok html)
      (failed : c.serialize html r.options.serializeOptions = .error e) :
      Ends (.error e) [.render neutral {}, .serialize html r.options.serializeOptions]
  | badTarget {neutral html markdown : Text} {e : ConvertError}
      (valid : r.options.validate = .ok ())
      (read : c.registry.preprocess r.source r.input = .ok neutral)
      (rendered : c.render neutral {} = .ok html)
      (written : c.serialize html r.options.serializeOptions = .ok markdown)
      (refused : c.registry.postprocess r.target markdown = .error e) :
      Ends (.error e) [.render neutral {}, .serialize html r.options.serializeOptions]
  | converted {neutral html markdown output : Text} (valid : r.options.validate = .ok ())
      (read : c.registry.preprocess r.source r.input = .ok neutral)
      (rendered : c.render neutral {} = .ok html)
      (written : c.serialize html r.options.serializeOptions = .ok markdown)
      (emitted : c.registry.postprocess r.target markdown = .ok output) :
      Ends (.ok (r.options.shape output))
        [.render neutral {}, .serialize html r.options.serializeOptions]

variable {c r}

theorem run_callRender (calls : List ConvertCall) (markdown : Text) :
    (c.callRender markdown).run.run calls =
      (c.render markdown {}, calls ++ [.render markdown {}]) := rfl

theorem run_callSerialize (calls : List ConvertCall) (html : Text) (options : SerializeOptions) :
    (c.callSerialize html options).run.run calls =
      (c.serialize html options, calls ++ [.serialize html options]) := rfl

/-- A run ends in the way its stages say. -/
theorem Ends.trace_eq {result : Except ConvertError Text} {calls : List ConvertCall}
    (ends : Ends c r result calls) : c.trace r = (result, calls) := by
  cases ends with
  | badOptions refused =>
    simp only [trace, steps, Effect.run_bind, Converting.run_liftExcept, refused]
  | badSource valid refused =>
    simp only [trace, steps, Effect.run_bind, Converting.run_liftExcept, valid, refused]
  | renderFails valid read failed =>
    simp only [trace, steps, Effect.run_bind, Converting.run_liftExcept, run_callRender, valid,
      read, failed, List.nil_append]
  | serializeFails valid read rendered failed =>
    simp only [trace, steps, Effect.run_bind, Converting.run_liftExcept, run_callRender,
      run_callSerialize, valid, read, rendered, failed, List.nil_append, List.singleton_append]
  | badTarget valid read rendered written refused =>
    simp only [trace, steps, Effect.run_bind, Converting.run_liftExcept, run_callRender,
      run_callSerialize, valid, read, rendered, written, refused, List.nil_append,
      List.singleton_append]
  | converted valid read rendered written emitted =>
    simp only [trace, steps, Effect.run_bind, Converting.run_liftExcept, Converting.run_pure,
      run_callRender, run_callSerialize, valid, read, rendered, written, emitted, List.nil_append,
      List.singleton_append]

/-- A run always ends in one of the six ways. -/
theorem ends_trace (c : Converter) (r : ConvertRequest) :
    Ends c r (c.trace r).1 (c.trace r).2 := by
  have ended : ∃ result calls, Ends c r result calls := by
    cases valid : r.options.validate with
    | error e => exact ⟨_, _, .badOptions valid⟩
    | ok done =>
      cases read : c.registry.preprocess r.source r.input with
      | error e => exact ⟨_, _, .badSource valid read⟩
      | ok neutral =>
        cases rendered : c.render neutral {} with
        | error e => exact ⟨_, _, .renderFails valid read rendered⟩
        | ok html =>
          cases written : c.serialize html r.options.serializeOptions with
          | error e => exact ⟨_, _, .serializeFails valid read rendered written⟩
          | ok markdown =>
            cases emitted : c.registry.postprocess r.target markdown with
            | error e => exact ⟨_, _, .badTarget valid read rendered written emitted⟩
            | ok output => exact ⟨_, _, .converted valid read rendered written emitted⟩
  obtain ⟨result, calls, ends⟩ := ended
  rw [ends.trace_eq]
  exact ends

/-- Nothing is called exactly when the width is bad or the source is not registered. -/
theorem calls_eq_nil_iff (c : Converter) (r : ConvertRequest) :
    (c.trace r).2 = [] ↔
      (∃ e, r.options.validate = .error e) ∨ c.registry.has r.source = false := by
  constructor
  · have ends := ends_trace c r
    intro none
    rw [none] at ends
    generalize (c.trace r).1 = result at ends
    cases ends with
    | badOptions refused => exact .inl ⟨_, refused⟩
    | badSource _ refused =>
      refine .inr (Bool.eq_false_iff.mpr fun registered => ?_)
      obtain ⟨neutral, read⟩ := Registry.exists_applyRules_of_has registered .ingest
        (Text.normalizeNewlines r.input)
      exact nomatch refused.symm.trans read
  · rintro (⟨e, refused⟩ | unregistered)
    · rw [(Ends.badOptions refused).trace_eq]
    · cases valid : r.options.validate with
      | error e => rw [(Ends.badOptions valid).trace_eq]
      | ok done =>
        rw [(Ends.badSource valid
          (Registry.applyRules_of_has_eq_false unregistered _ _)).trace_eq]

/-- **What becomes of a malformed request.**  A bad width and an unregistered source are refused, in
this order, before anything is called, and nothing else is.  An unregistered target is found only
when both collaborators have done their work, and goes unmentioned if one of them fails. -/
theorem trace_of_malformed (c : Converter) (r : ConvertRequest) :
    (∀ width, r.options.wrapWidth = some width → width ≠ 0 → ¬ (8 ≤ width ∧ width ≤ 1024) →
      c.trace r = (.error (.invalidWrapWidth width), [])) ∧
    (r.options.validate = .ok () → c.registry.has r.source = false →
      c.trace r = (.error (.unknownDialect r.source.name.toList), [])) ∧
    (r.options.validate = .ok () → c.registry.has r.source →
      (c.trace r).2 ≠ [] ∧ (c.registry.has r.target = false →
        ∃ neutral, c.registry.preprocess r.source r.input = .ok neutral ∧
          match c.render neutral {} with
          | .error e => c.trace r = (.error e, [.render neutral {}])
          | .ok html =>
            c.trace r =
              (.error <| match c.serialize html r.options.serializeOptions with
                | .error e => e
                | .ok _ => .unknownDialect r.target.name.toList,
              [.render neutral {}, .serialize html r.options.serializeOptions]))) := by
  refine ⟨fun width given nonzero outside => ?_, fun valid unregistered => ?_,
    fun valid registered => ⟨?_, fun unregistered => ?_⟩⟩
  · refine (Ends.badOptions (ConversionOptions.validate_eq_error_iff.mpr ?_)).trace_eq
    exact ⟨width, given, nonzero, outside, rfl⟩
  · exact (Ends.badSource valid (Registry.applyRules_of_has_eq_false unregistered _ _)).trace_eq
  · rw [Ne, calls_eq_nil_iff, valid, registered]
    simp
  · obtain ⟨neutral, read⟩ := Registry.exists_applyRules_of_has registered .ingest
      (Text.normalizeNewlines r.input)
    refine ⟨neutral, read, ?_⟩
    cases rendered : c.render neutral {} with
    | error e => exact (Ends.renderFails valid read rendered).trace_eq
    | ok html =>
      dsimp only
      cases written : c.serialize html r.options.serializeOptions with
      | error e => exact (Ends.serializeFails valid read rendered written).trace_eq
      | ok markdown =>
        exact (Ends.badTarget valid read rendered written
          (Registry.applyRules_of_has_eq_false unregistered _ _)).trace_eq

/-- All faults at once: the width is what is reported, and nothing is called. -/
theorem trace_of_malformed_in_every_way :
    (3 ≠ 0 ∧ ¬ (8 ≤ 3 ∧ 3 ≤ 1024)) ∧
      Converter.trace { registry := .empty }
          ⟨"text".toList, .gfm, .obsidian, { wrapWidth := some 3 }⟩ =
        (.error (.invalidWrapWidth 3), []) :=
  ⟨by decide, (trace_of_malformed { registry := .empty }
    ⟨"text".toList, .gfm, .obsidian, { wrapWidth := some 3 }⟩).1 3 rfl (by decide) (by decide)⟩

/-- A registry without the target: the renderer is called, and its failure is what is reported. -/
theorem trace_of_unregistered_target :
    let c : Converter :=
      { registry := Registry.empty.register (.builtin .gfm)
        render := fun _ _ => .error (.render "boom".toList) }
    let r : ConvertRequest := { input := "text".toList, source := .gfm, target := .obsidian }
    c.registry.has r.target = false ∧
      c.trace r = (.error (.render "boom".toList), [.render "text".toList {}]) :=
  ⟨rfl, rfl⟩

end Converter

end MarkdownDialects
