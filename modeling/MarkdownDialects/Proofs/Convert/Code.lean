import MarkdownDialects.Proofs.Convert.Stages
import MarkdownDialects.Proofs.Dialect.Fenced
import MarkdownDialects.Proofs.Markdown.Code
import MarkdownDialects.Proofs.Serialize.Page

/-!
# Converting fenced code

Rendering, reading the HTML and writing it again bring fenced code back character by character
(`serialize_render_fenced`).  The rules of the dialects run over the whole text, so of all stages
only they see the code: a conversion does to fenced code what the rules of its two dialects do
(`convert_fenced`).
-/

namespace MarkdownDialects

theorem normalizeNewlines_fenced {code : Text} (clean : IsCode code) :
    Text.normalizeNewlines (fenced code) = fenced code := by
  apply Html.normalizeNewlines_of_not_mem
  have absent : '\r' ∉ code := clean.not_mem rfl
  simp [fenced, absent]

/-- **Fenced code is opaque to rendering and serializing.** -/
theorem serialize_render_fenced {options : SerializeOptions}
    (style : options.codeBlockStyle = .fenced) (shown : RenderOptions) {code : Text}
    (clean : IsCode code) :
    serialize options ElementRule.defaults (Markdown.render shown (fenced code)) = fenced code := by
  have noNull : '\x00' ∉ code ++ ['\n'] := by
    have absent : '\x00' ∉ code := clean.not_mem rfl
    simp [absent]
  have noReturn : '\r' ∉ code ++ ['\n'] := by
    have absent : '\r' ∉ code := clean.not_mem rfl
    simp [absent]
  rw [serialize, Markdown.render_fenced shown clean,
    Html.parse_code (List.append_ne_nil_of_right_ne_nil _ (List.cons_ne_nil _ _)) noNull noReturn,
    Serialize.writeDocument_code style (clean.not_mem rfl)]

theorem convert_fenced_eq (source target : DialectId) {code : Text} (clean : IsCode code) :
    convert (fenced code) source target {} =
      .ok (RuleSet.apply (Dialect.builtin target).emit
        (RuleSet.apply (Dialect.builtin source).ingest (fenced code))) := by
  obtain ⟨replaced, ingested, kept⟩ := Dialect.exists_apply_ingest_fenced source clean
  rw [convert_eq, normalizeNewlines_fenced clean, ingested, serialize_render_fenced rfl {} kept,
    normalizeNewlines_fenced kept]

/-- **Only the rules of the two dialects see fenced code.**  The rules of the source leave the
fences where they are, and the conversion is what the rules of the target make of that; if no rule
of either has a match, the code stays as it is. -/
theorem convert_fenced (source target : DialectId) {code : Text} (clean : IsCode code) :
    (∃ replaced, RuleSet.apply (Dialect.builtin source).ingest (fenced code) = fenced replaced ∧
      convert (fenced code) source target {} =
        .ok (RuleSet.apply (Dialect.builtin target).emit (fenced replaced))) ∧
      ((∀ r ∈ (Dialect.builtin source).ingest, ¬ r.applies (fenced code)) →
        (∀ r ∈ (Dialect.builtin target).emit, ¬ r.applies (fenced code)) →
          convert (fenced code) source target {} = .ok (fenced code)) := by
  have whole := convert_fenced_eq source target clean
  constructor
  · obtain ⟨replaced, ingested, _⟩ := Dialect.exists_apply_ingest_fenced source clean
    exact ⟨replaced, ingested, by rw [whole, ingested]⟩
  · intro into out
    rw [whole, RuleSet.apply_of_not_applies into, RuleSet.apply_of_not_applies out]

/-- Code in which no rule of Obsidian has a match, neither on the way in nor on the way out. -/
theorem convert_fenced_of_shell_test :
    IsCode "if [ $a -lt 3 ] && b; then\n\tx = 1\nfi".toList ∧
      (∀ r ∈ (Dialect.builtin .obsidian).ingest,
        ¬ r.applies (fenced "if [ $a -lt 3 ] && b; then\n\tx = 1\nfi".toList)) ∧
      (∀ r ∈ (Dialect.builtin .obsidian).emit,
        ¬ r.applies (fenced "if [ $a -lt 3 ] && b; then\n\tx = 1\nfi".toList)) ∧
      convert (fenced "if [ $a -lt 3 ] && b; then\n\tx = 1\nfi".toList) .obsidian .obsidian {} =
        .ok (fenced "if [ $a -lt 3 ] && b; then\n\tx = 1\nfi".toList) := by
  have clean : IsCode "if [ $a -lt 3 ] && b; then\n\tx = 1\nfi".toList := by decide +kernel
  have into : ∀ r ∈ (Dialect.builtin .obsidian).ingest,
      ¬ r.applies (fenced "if [ $a -lt 3 ] && b; then\n\tx = 1\nfi".toList) := by decide +kernel
  have out : ∀ r ∈ (Dialect.builtin .obsidian).emit,
      ¬ r.applies (fenced "if [ $a -lt 3 ] && b; then\n\tx = 1\nfi".toList) := by decide +kernel
  exact ⟨clean, into, out, (convert_fenced .obsidian .obsidian clean).2 into out⟩

/-- **Code is not opaque to the rules.**  A comparison between two signs of equality is a highlight
to Obsidian, inside a fence too. -/
theorem convert_fenced_highlight :
    convert (fenced "==a==".toList) .obsidian .gfm {} ≠ .ok (fenced "==a==".toList) := by
  rw [convert_fenced_eq .obsidian .gfm (by decide +kernel)]
  decide +kernel

end MarkdownDialects
