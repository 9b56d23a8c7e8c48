import MarkdownDialects.Proofs.Layout.Paragraphs

/-!
# The guard of wrapping

Wrapping guards the start of a line by a look at one word; a scan judges whole lines, with the line
after each.  The guard is enough for the scan: lines wrapped from words of which the first may lead
all read as plain text, so that only a paragraph whose own first word may not lead is ever left
unwrapped (`readsAsPlain_lines_of_canLead`).  Where no paragraph of a text is such a one, a wrapped
text remembers nothing of the widths it was wrapped to before (`reflow_forgets_history`).
-/

namespace MarkdownDialects

/-- **The guard is sound.**  Words of which the first may lead are wrapped into lines that read as
plain text, at any width.  So where wrapped lines do not, and the paragraph is left as it was, its
first word may not lead. -/
theorem readsAsPlain_lines_of_canLead (width : Nat) :
    (∀ words : List Text, (∀ w ∈ words, Text.IsWord w) →
      (∀ first ∈ words.head?, Wrap.canLead first) →
        readsAsPlain ((Wrap.lines width words).map Text.unwords)) ∧
    ∀ ls : List Text, readsAsPlain (wrapped width ls) = false →
      ∃ first rest, paragraphWords ls = first :: rest ∧ Wrap.canLead first = false := by
  refine ⟨fun words all first => ?_, fun ls broken => ?_⟩
  · exact readsAsPlain_of_isLed fun line member => Wrap.isLed_of_mem_lines all first member
  · by_contra leads
    have first : ∀ w ∈ (paragraphWords ls).head?, Wrap.canLead w := by
      intro w begins
      by_contra stays
      obtain ⟨rest, words⟩ := List.head?_eq_some_iff.mp begins
      exact leads ⟨w, rest, words, Bool.eq_false_iff.mpr stays⟩
    exact Bool.noConfusion (broken.symm.trans (readsAsPlain_wrapped first))

/-- Marks of every kind behind a word that may lead, at a width that leaves room for none of them;
and a paragraph that begins with the marker of a list item. -/
theorem readsAsPlain_lines_of_marks :
    let words := ["a".toList, "1.".toList, ['#'], "bb".toList, "---".toList, "```".toList]
    ((∀ w ∈ words, Text.IsWord w) ∧ Wrap.canLead "a".toList ∧
      readsAsPlain ((Wrap.lines 2 words).map Text.unwords)) ∧
    readsAsPlain (wrapped 10 ["1.".toList, "cc".toList]) = false ∧
      ∃ first rest, paragraphWords ["1.".toList, "cc".toList] = first :: rest ∧
        Wrap.canLead first = false := by
  intro words
  have all : ∀ w ∈ words, Text.IsWord w := by decide
  have leads : Wrap.canLead "a".toList := by decide
  have broken : readsAsPlain (wrapped 10 ["1.".toList, "cc".toList]) = false := by decide
  refine ⟨⟨all, leads, (readsAsPlain_lines_of_canLead 2).1 words all fun first begins => ?_⟩,
    broken, (readsAsPlain_lines_of_canLead 10).2 _ broken⟩
  cases begins
  exact leads

namespace Segment

/-- A paragraph whose first word may lead a line.  Nothing is asked of a line that stands. -/
def Leads : Segment → Prop
  | .verbatim _ => True
  | .paragraph ls => ∀ first ∈ (paragraphWords ls).head?, Wrap.canLead first

instance : DecidablePred Leads
  | .verbatim _ => inferInstanceAs (Decidable True)
  | .paragraph ls =>
    inferInstanceAs (Decidable (∀ first ∈ (paragraphWords ls).head?, Wrap.canLead first))

theorem leads_rewrapped (width : Nat) (s : Segment) : (s.rewrapped width).Leads ↔ s.Leads := by
  cases s with
  | verbatim line => rfl
  | paragraph ls => rw [rewrapped, Leads, Leads, paragraphWords_rewrap]

/-- What is wrapped last decides: the lines that a paragraph was written in before do not count. -/
theorem Leads.reflowed_rewrapped {s : Segment} (leads : s.Leads) (before width : Nat) :
    (s.rewrapped before).reflowed width = s.reflowed width := by
  cases s with
  | verbatim line => rfl
  | paragraph ls =>
    have again : ∀ w ∈ (paragraphWords (rewrap before ls)).head?, Wrap.canLead w := by
      rwa [paragraphWords_rewrap]
    calc rewrap width (rewrap before ls)
        = wrapped width (rewrap before ls) := rewrap_eq_wrapped again
      _ = wrapped width ls := wrapped_congr width (paragraphWords_rewrap before ls)
      _ = rewrap width ls := (rewrap_eq_wrapped leads).symm

end Segment

theorem leads_of_mem_segments_reflow {t : Text} (leads : ∀ s ∈ segments t, s.Leads) (width : Nat) :
    ∀ s ∈ segments (reflow width t), s.Leads := by
  rcases eq_or_ne width 0 with rfl | positive
  · rwa [reflow_zero]
  · rw [segments_reflow positive]
    -- The words of a paragraph stay, so the first one does.
    intro s member
    obtain ⟨original, present, rfl⟩ := List.mem_map.mp member
    exact (original.leads_rewrapped width).mpr (leads original present)

theorem reflow_reflow {width : Nat} (positive : width ≠ 0) {t : Text}
    (leads : ∀ s ∈ segments t, s.Leads) (before : Nat) :
    reflow width (reflow before t) = reflow width t := by
  rcases eq_or_ne before 0 with rfl | wraps
  · rw [reflow_zero]
  · have same : ∀ s ∈ segments t, (s.rewrapped before).reflowed width = s.reflowed width :=
      fun s member => (leads s member).reflowed_rewrapped before width
    rw [reflow_of_ne_zero positive, reflow_of_ne_zero positive, segments_reflow wraps,
      List.flatMap_map, List.flatMap_congr same]

/-- **Wrapping forgets its history.**  If every paragraph of a text begins with a word that may lead,
then a text wrapped to one width and then to another is the text wrapped to the other, and no
sequence of passes before the last one shows. -/
theorem reflow_forgets_history {width : Nat} (positive : width ≠ 0) {t : Text}
    (leads : ∀ s ∈ segments t, s.Leads) :
    (∀ before, reflow width (reflow before t) = reflow width t) ∧
      ∀ history : List Nat,
        reflow width (history.foldl (fun shaped before => reflow before shaped) t) =
          reflow width t := by
  refine ⟨reflow_reflow positive leads, fun history => ?_⟩
  -- Along the passes, each of which keeps the condition for the next one.
  induction history generalizing t with
  | nil => rfl
  | cons before history ih =>
    rw [List.foldl_cons, ih (leads_of_mem_segments_reflow leads before),
      reflow_reflow positive leads]

/-- A paragraph with marks that may not lead, an item, a heading and fenced code, wrapped narrowly
and then to nine columns. -/
theorem reflow_forgets_history_of_marks :
    let t := "aa # bb 1. cc\n\n- item\nHead\n===\n```\nx   y\n```\ndd   ee".toList
    (9 ≠ 0 ∧ ∀ s ∈ segments t, s.Leads) ∧
      reflow 4 t ≠ reflow 9 t ∧ reflow 9 (reflow 4 t) = reflow 9 t := by
  intro t
  have positive : 9 ≠ 0 := by decide
  have leads : ∀ s ∈ segments t, s.Leads := by decide
  exact ⟨⟨positive, leads⟩, by decide, (reflow_forgets_history positive leads).1 4⟩

/-- A paragraph that begins with a bare marker remembers: once the marker stands alone on its line,
it is not joined to the next word again. -/
example :
    let t := "-\naa bb".toList
    reflow 10 (reflow 2 t) = "-\naa\nbb".toList ∧ reflow 10 t = "-\naa bb".toList := by decide

end MarkdownDialects
