import MarkdownDialects.Dialect.Obsidian
import MarkdownDialects.Proofs.Text.Mark
import MarkdownDialects.Proofs.Text.Percent
import MarkdownDialects.Proofs.Text.Trim

/-!
# Names of notes

A note name without the characters of link syntax is read back from the destination that is written
for it (`Obsidian.noteTarget_linkDestination`).
-/

namespace MarkdownDialects

namespace Obsidian

/-- None of the marks occurs in the text. -/
def Lacks (marks t : Text) : Prop := ∀ c ∈ marks, c ∉ t

instance (marks t : Text) : Decidable (Lacks marks t) :=
  List.decidableBAll (fun c => c ∉ t) marks

/-- Text of a link: not empty, without white space around it, and without the given marks. -/
structure LinkText (marks : Text) where
  text : Text
  nonempty : text ≠ []
  trimmed : Text.trim text = text
  clean : Lacks marks text

/-- The name of a note as it stands in a link: text without the marks of links, of other syntax, or
of percent encoding, that looks like a note. -/
structure NoteName extends LinkText "[]|()%/=!<>\\".toList where
  internal : looksInternal text

/-- The text that an aliased link shows. -/
abbrev Alias := LinkText "[]|!=<>\\".toList

theorem linkDestination_ne_nil {target : Text} (nonempty : target ≠ []) :
    linkDestination target ≠ [] := by
  unfold linkDestination
  split
  · simp
  · exact nonempty

/-- A destination adds no characters but angle brackets. -/
theorem not_mem_linkDestination {target : Text} {c : Char} (absent : c ∉ target) (noOpen : c ≠ '<')
    (noClose : c ≠ '>') : c ∉ linkDestination target := by
  unfold linkDestination
  split
  · simp [absent, noOpen, noClose]
  · exact absent

/-- A link adds no characters but brackets. -/
theorem not_mem_link {shown target : Text} {c : Char} (inShown : c ∉ shown)
    (inTarget : c ∉ target) (noBracket : c ∉ "[]()<>".toList) : c ∉ link shown target := by
  have different : ∀ d ∈ "[]()<>".toList, c ≠ d := fun d member same => noBracket (same ▸ member)
  have inDestination : c ∉ linkDestination target :=
    not_mem_linkDestination inTarget (different '<' (by decide)) (different '>' (by decide))
  simp [link, inShown, inDestination, different '[' (by decide), different ']' (by decide),
    different '(' (by decide), different ')' (by decide)]

/-- Text between angle brackets has no white space around it. -/
theorem trim_angled (t : Text) : Text.trim (['<'] ++ t ++ ['>']) = ['<'] ++ t ++ ['>'] :=
  Text.trimBy_of_ends rfl rfl t

theorem unbracket_angled (t : Text) : unbracket (['<'] ++ t ++ ['>']) = t := by
  unfold unbracket
  rw [List.append_assoc, Text.after?_append, Option.bind_some, Text.before?_append,
    Option.getD_some]

/-- Without an opening angle bracket there is nothing to take off. -/
theorem unbracket_of_not_mem {t : Text} (absent : '<' ∉ t) : unbracket t = t := by
  have missing : Text.after? ['<'] t = none := by
    rw [Text.after?_eq_none_iff]
    intro found
    exact absent (found.subset List.mem_cons_self)
  unfold unbracket
  rw [missing, Option.bind_none, Option.getD_none]

/-- **A note name is read back from its destination.** -/
theorem noteTarget_linkDestination (name : NoteName) :
    noteTarget (linkDestination name.text) = name.text := by
  have decoded : Percent.decode name.text = name.text :=
    Percent.decode_of_not_mem (name.clean '%' (by decide))
  unfold noteTarget linkDestination
  split
  · rw [trim_angled, unbracket_angled, decoded]
  · rw [name.trimmed, unbracket_of_not_mem (name.clean '<' (by decide)), decoded]

end Obsidian

end MarkdownDialects
