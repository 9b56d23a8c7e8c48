import MarkdownDialects.Markdown.LinkSyntax
import MarkdownDialects.Text.Utf8

/-!
# References

Links that name a definition share an allowance for the whole document: each use of a definition
costs the size of its address and title, and a use that costs more than what is left is no link.
A short document can therefore not grow without bound by naming one long definition many times.
-/

namespace MarkdownDialects

namespace Markdown

/-- The link definitions of a document, and how many bytes their uses may still add to it. -/
structure References where
  definitions : List Definition
  allowance : Nat

namespace References

/-- The allowance that every document has. -/
def minimalAllowance : Nat := 100000

/-- The definitions of a document of the given size in bytes, none of them used yet. -/
def ofDefinitions (size : Nat) (definitions : List Definition) : References :=
  ⟨definitions, max minimalAllowance size⟩

/-- What one use of a target costs, in bytes. -/
def cost (target : Target) : Nat := Utf8.size target.url + Utf8.size target.title

/-- Use the definition of a label, if there is one and the allowance covers it. -/
def use? (references : References) (label : Text) : Option (Target × References) :=
  match Definition.lookup? references.definitions label with
  | some target =>
    if cost target ≤ references.allowance then
      some (target, { references with allowance := references.allowance - cost target })
    else none
  | none => none

/-- A use spends what it costs. -/
theorem allowance_use? {references rest : References} {label : Text} {target : Target}
    (found : references.use? label = some (target, rest)) :
    rest.allowance + cost target = references.allowance := by
  unfold use? at found
  split at found
  · split at found
    · simp only [Option.some.injEq, Prod.mk.injEq] at found
      obtain ⟨rfl, rfl⟩ := found
      simp only
      omega
    · exact nomatch found
  · exact nomatch found

end References

end Markdown

end MarkdownDialects
