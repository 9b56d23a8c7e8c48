import MarkdownDialects.Convert.Converter
import MarkdownDialects.Proofs.Dialect.Registry
import MarkdownDialects.Proofs.Substitution.Scan

/-!
# The stages of a conversion
-/

namespace MarkdownDialects

/-- The built-in registry runs the rules of the built-in dialects. -/
theorem Registry.applyRules_withDefaults (direction : Direction) (id : DialectId) (t : Text) :
    withDefaults.applyRules direction id t =
      .ok (RuleSet.apply ((Dialect.builtin id).rules direction) t) := by
  rw [applyRules_eq, get?_withDefaults]

/-- Rules that have no match in a text leave it alone. -/
theorem RuleSet.apply_of_not_applies {rules : RuleSet} {t : Text}
    (silent : ∀ r ∈ rules, ¬ r.applies t) : apply rules t = t := by
  induction rules with
  | nil => rfl
  | cons r rules ih =>
    have none : r.pattern.findAll t = [] := by
      simpa [Rule.applies] using silent r List.mem_cons_self
    have kept : r.apply t = t := Pattern.replaceAll_of_findAll_eq_nil none
    rw [apply_cons, kept]
    exact ih fun other member => silent other (.tail r member)

/-- A conversion between built-in dialects with the options left alone never fails: it is the rules
of the source, rendering, serializing, and the rules of the target. -/
theorem convert_eq (input : Text) (source target : DialectId) :
    convert input source target {} =
      .ok (RuleSet.apply (Dialect.builtin target).emit (Text.normalizeNewlines
        (serialize {} ElementRule.defaults (Markdown.render {} (RuleSet.apply
          (Dialect.builtin source).ingest (Text.normalizeNewlines input)))))) := by
  have into := Registry.applyRules_withDefaults .ingest source
  have out := Registry.applyRules_withDefaults .emit target
  simp only [convert, Converter.run, Converter.trace, Converter.steps, Registry.preprocess,
    Registry.postprocess, into, out]
  rfl

end MarkdownDialects
