import MarkdownDialects.Convert.Preview
import MarkdownDialects.Dialect.Builtin
import MarkdownDialects.Proofs.Substitution.Enclosed

/-!
# Spoilers there and back

Discord and Reddit write spoilers in pipes and carry them as spans.  Whatever pipes a text holds,
going through spans and back gives the text, unless it contains a tag of such a span already
(`emit_ingest_spoilers`).  Once its spoilers are spans, a text holds no spoiler in pipes, so neither
another pass nor a preview changes it (`ingest_spoilers_exhausts`).
-/

namespace MarkdownDialects

namespace Dialect

/-- The dialects that write spoilers in pipes. -/
def HasSpoilers (d : Dialect) : Prop := d.ingest = spoilerIngest ∧ d.emit = spoilerEmit

theorem hasSpoilers_builtin {id : DialectId} (chat : id = .discord ∨ id = .reddit) :
    HasSpoilers (builtin id) := by
  rcases chat with rfl | rfl
  · exact ⟨rfl, rfl⟩
  · exact ⟨rfl, rfl⟩

/-- Ingesting spoilers puts the marks of a span in the place of pipes. -/
theorem apply_spoilerIngest (t : Text) :
    RuleSet.apply spoilerIngest t =
      (Marker.enclosed Marker.pipes Marker.pipes).replaceAll
        (Marker.enclose Marker.spoilerOpen Marker.spoilerClose) t := rfl

/-- Emitting spoilers puts pipes in the place of the marks of a span. -/
theorem apply_spoilerEmit (t : Text) :
    RuleSet.apply spoilerEmit t =
      (Marker.enclosed Marker.spoilerOpen Marker.spoilerClose).replaceAll
        (Marker.enclose Marker.pipes Marker.pipes) t := rfl

/-- Spoilers survive the way through spans, as long as no tag of a span is in the text. -/
theorem apply_spoilerEmit_spoilerIngest {t : Text} (noOpening : ¬ Marker.spoilerOpen <:+: t)
    (noClosing : ¬ Marker.spoilerClose <:+: t) :
    RuleSet.apply spoilerEmit (RuleSet.apply spoilerIngest t) = t := by
  have opening : Marker.spoilerOpen = '<' :: "span data-spoiler>".toList := by decide
  have closing : Marker.spoilerClose = '<' :: "/span>".toList := by decide
  rw [opening] at noOpening
  rw [closing] at noClosing
  rw [apply_spoilerIngest, apply_spoilerEmit, opening, closing]
  exact Marker.replaceAll_enclose_cancel (by decide) (by decide) (by decide) (by decide)
    noOpening noClosing

/-- Where spoilers are spans, no spoiler in pipes begins. -/
theorem spoilerPipes_eq_none {t s : Text} (inside : s <:+ RuleSet.apply spoilerIngest t)
    (before : Option Char) : Marker.spoilerPipes before s = none := by
  have proper : Pattern.Proper (Marker.enclosed Marker.pipes Marker.pipes) :=
    Marker.enclosed_proper (by decide) (by decide)
  exact Marker.enclosed_exchanged_eq_none (by decide) (by decide) (by decide) (by decide)
    (by decide) (Pattern.scanned_scanFrom proper none t).1 before inside

/-- So the rule for spoilers changes nothing there. -/
theorem replaceAll_spoilerPipes_apply_spoilerIngest (t : Text) :
    Marker.spoilerPipes.replaceAll Marker.wrapSpoiler (RuleSet.apply spoilerIngest t) =
      RuleSet.apply spoilerIngest t :=
  Pattern.replaceAll_of_silent fun before _ inside => spoilerPipes_eq_none inside before

end Dialect

/-- The preview of any dialect but Obsidian replaces spoilers and nothing else. -/
theorem Preview.project_of_ne {id : DialectId} (other : id ≠ .obsidian) (t : Text) :
    project id t = Marker.spoilerPipes.replaceAll Marker.wrapSpoiler t := by
  rw [project, rules, if_neg other]
  rfl

/-- **Spoilers round-trip.**  A text without span tags comes back unchanged from any dialect that
writes spoilers in pipes into any such dialect: with spoilers of any number, empty or over several
lines, with pipes in a row, and with pipes that have no partner. -/
theorem emit_ingest_spoilers {source target : DialectId}
    (reads : source = .discord ∨ source = .reddit) (writes : target = .discord ∨ target = .reddit)
    {t : Text} (noOpening : ¬ Marker.spoilerOpen <:+: t)
    (noClosing : ¬ Marker.spoilerClose <:+: t) :
    RuleSet.apply (Dialect.builtin target).emit
      (RuleSet.apply (Dialect.builtin source).ingest t) = t := by
  rw [(Dialect.hasSpoilers_builtin reads).1, (Dialect.hasSpoilers_builtin writes).2]
  exact Dialect.apply_spoilerEmit_spoilerIngest noOpening noClosing

/-- An empty spoiler, a spoiler over two lines in runs of three pipes, and pipes left over. -/
theorem emit_ingest_spoilers_of_odd_runs :
    ¬ Marker.spoilerOpen <:+: "|||| and |||one\ntwo||| or a || b".toList ∧
      ¬ Marker.spoilerClose <:+: "|||| and |||one\ntwo||| or a || b".toList ∧
      RuleSet.apply (Dialect.builtin .reddit).emit
        (RuleSet.apply (Dialect.builtin .discord).ingest
          "|||| and |||one\ntwo||| or a || b".toList) =
        "|||| and |||one\ntwo||| or a || b".toList :=
  ⟨by decide, by decide, emit_ingest_spoilers (.inl rfl) (.inr rfl) (by decide) (by decide)⟩

/-- **Spoilers are all found at once.**  What a dialect with spoilers in pipes has read holds no
text between two pairs of pipes.  Reading it again changes nothing, and neither does the preview of
any dialect but Obsidian. -/
theorem ingest_spoilers_exhausts {source : DialectId} (reads : source = .discord ∨ source = .reddit)
    (t : Text) :
    (∀ front payload rest, RuleSet.apply (Dialect.builtin source).ingest t ≠
        front ++ Marker.pipes ++ payload ++ Marker.pipes ++ rest) ∧
      Marker.spoilerPipes.findAll (RuleSet.apply (Dialect.builtin source).ingest t) = [] ∧
      RuleSet.apply (Dialect.builtin source).ingest
          (RuleSet.apply (Dialect.builtin source).ingest t) =
        RuleSet.apply (Dialect.builtin source).ingest t ∧
      ∀ id, id ≠ .obsidian →
        Preview.project id (RuleSet.apply (Dialect.builtin source).ingest t) =
          RuleSet.apply (Dialect.builtin source).ingest t := by
  rw [(Dialect.hasSpoilers_builtin reads).1]
  have again := Dialect.replaceAll_spoilerPipes_apply_spoilerIngest t
  refine ⟨?_, ?_, again, fun id other => (Preview.project_of_ne other _).trans again⟩
  · intro front payload rest whole
    have behind : Marker.pipes ++ (payload ++ Marker.pipes ++ rest) <:+
        RuleSet.apply Dialect.spoilerIngest t := ⟨front, by rw [whole]; simp⟩
    have none := Dialect.spoilerPipes_eq_none behind Option.none
    exact (Marker.enclosed_eq_none_iff (by decide)).mp none _ rfl ⟨payload, rest, rfl⟩
  · exact Pattern.findAll_of_silent fun before _ inside =>
      Dialect.spoilerPipes_eq_none inside before

/-- An empty spoiler in a run of five pipes, a spoiler that begins with a pipe, and two pipes left
over. -/
theorem ingest_spoilers_exhausts_of_long_runs :
    RuleSet.apply (Dialect.builtin .discord).ingest "|||||a|||b|| c || d".toList =
        "<span data-spoiler></span>|a<span data-spoiler>|b</span> c || d".toList ∧
      RuleSet.apply (Dialect.builtin .discord).ingest
          "<span data-spoiler></span>|a<span data-spoiler>|b</span> c || d".toList =
        "<span data-spoiler></span>|a<span data-spoiler>|b</span> c || d".toList ∧
      Preview.project .gfm
          "<span data-spoiler></span>|a<span data-spoiler>|b</span> c || d".toList =
        "<span data-spoiler></span>|a<span data-spoiler>|b</span> c || d".toList := by
  have written : RuleSet.apply (Dialect.builtin .discord).ingest "|||||a|||b|| c || d".toList =
      "<span data-spoiler></span>|a<span data-spoiler>|b</span> c || d".toList := by decide
  obtain ⟨_, _, again, shown⟩ := ingest_spoilers_exhausts (.inl rfl) "|||||a|||b|| c || d".toList
  rw [written] at again shown
  exact ⟨written, again, shown .gfm (by decide)⟩

end MarkdownDialects
