import MarkdownDialects.Convert.Converter
import MarkdownDialects.Proofs.Text.LineEnd

/-!
# Line ends do not matter to a conversion

A run reads its input only after the line ends were made line feeds, so inputs that differ in
nothing but line ends are converted alike, down to the calls of the collaborators
(`Converter.trace_congr`).
-/

namespace MarkdownDialects

namespace Converter

/-- A run depends on its input only up to line ends. -/
theorem trace_congr (c : Converter) (r : ConvertRequest) {input : Text}
    (same : Text.normalizeNewlines input = Text.normalizeNewlines r.input) :
    c.trace { r with input } = c.trace r := by
  simp only [trace, steps, Registry.preprocess, same]

/-- **A text with a carriage return in front of every line feed is converted as the text itself is**,
by any registry, renderer and serializer, and fails in the same way. -/
theorem run_replaceChar_feed (c : Converter) (r : ConvertRequest)
    (single : ¬ ['\r', '\n'] <:+: r.input) :
    c.run { r with input := Text.replaceChar '\n' ['\r', '\n'] r.input } = c.run r := by
  have same := (Text.normalizeNewlines_replaceChar r.input).trans
    (Text.normalizeNewlines_eq_self single).symm
  rw [run, trace_congr c r same, run]

/-- A metadata block whose lines end in both ways, and returns that stand alone. -/
theorem run_replaceChar_feed_of_lone_returns :
    let feeds := "Title: a\rb\n\n[[c]]\r".toList
    let pairs := "Title: a\rb\r\n\r\n[[c]]\r".toList
    ¬ ['\r', '\n'] <:+: feeds ∧
      ({} : Converter).run { input := pairs, source := .multiMarkdown, target := .obsidian } =
        ({} : Converter).run { input := feeds, source := .multiMarkdown, target := .obsidian } := by
  intro feeds pairs
  have single : ¬ ['\r', '\n'] <:+: feeds := by decide +kernel
  have ends : pairs = Text.replaceChar '\n' ['\r', '\n'] feeds := by decide
  rw [ends]
  exact ⟨single, run_replaceChar_feed {}
    { input := feeds, source := .multiMarkdown, target := .obsidian } single⟩

end Converter

end MarkdownDialects
