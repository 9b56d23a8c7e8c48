import MarkdownDialects.Convert.Converter
import MarkdownDialects.Proofs.Dialect.MultiMarkdown
import MarkdownDialects.Proofs.Layout.Filled
import MarkdownDialects.Proofs.Line.Kind
import MarkdownDialects.Proofs.Text.Lines

/-!
# Dialect syntax under reflow

Reflow knows nothing of attribute lists and metadata: to it their lines are plain text of a
paragraph, and they are wrapped with it.  So an attribute list stays a line of its own where reflow
leaves its paragraph alone, and a leading metadata block stays the same block exactly when its
lines are filled to the width (`reflow_keeps_filled_syntax`).  Short lines are not: they are put on
one line (`reflow_joins_syntax`).
-/

namespace MarkdownDialects

namespace Metadata

variable {fields : List Text} {body t : Text} (leads : Leads fields body t)
include leads

/-- A metadata line begins with a letter. -/
theorem Leads.exists_letter {line : Text} (member : line ∈ fields) :
    ∃ c rest, line = c :: rest ∧ c.isAlpha := by
  have marked := (leads.isLine line member).2
  cases line with
  | nil => exact nomatch marked
  | cons c rest =>
    simp only [Marker.isMetadataLine, Bool.and_eq_true] at marked
    exact ⟨c, rest, rfl, marked.1⟩

theorem Leads.clean {line : Text} (member : line ∈ fields) : '\n' ∉ line ∧ line ≠ [] := by
  obtain ⟨c, rest, whole, _⟩ := leads.exists_letter member
  exact ⟨(leads.isLine line member).1, whole ▸ List.cons_ne_nil c rest⟩

/-- Metadata lines are lines of a paragraph. -/
theorem Leads.allFlowing : Segment.AllFlowing fields (some []) := by
  refine Segment.allFlowing_of_plain (fun line member => ?_) rfl
  obtain ⟨c, rest, rfl, letter⟩ := leads.exists_letter member
  refine ⟨?_, Line.kind_of_isAlpha letter rest, Line.isSetextUnderline_of_isAlpha letter rest⟩
  simp [Text.isAllBlank, Line.isBlank_of_isAlpha letter]

/-- To reflow a metadata block is the first paragraph of a text. -/
theorem Leads.segments_eq : segments t = .paragraph fields :: .verbatim [] :: segments body := by
  have stands (rest : List Text) :
      Segment.ofLines none ([] :: rest) = .verbatim [] :: Segment.ofLines none rest := rfl
  have read : Text.lines t = fields ++ [] :: Text.lines body := by
    rw [leads.whole, Text.lines_terminated fun line member => (leads.clean member).1]
  have scanned : Segment.ofLines none (fields ++ [] :: Text.lines body) =
      .paragraph fields :: Segment.ofLines none ([] :: Text.lines body) :=
    Segment.ofLines_append_of_allFlowing leads.nonempty leads.allFlowing (by simp [stands])
  rw [segments, read, scanned, stands]
  rfl

/-- Reflow wraps a metadata block like any paragraph and keeps the empty line after it. -/
theorem Leads.reflow_eq {width : Nat} (positive : width ≠ 0) :
    reflow width t = Text.terminated (rewrap width fields) ++ '\n' :: reflow width body := by
  have empty : Text.unlines ([[]] ++ (segments body).flatMap (Segment.reflowed width)) =
      '\n' :: Text.unlines ((segments body).flatMap (Segment.reflowed width)) :=
    Text.unlines_append (flatMap_reflowed_ne_nil positive body)
  rw [reflow_of_ne_zero positive, reflow_of_ne_zero positive, leads.segments_eq,
    List.flatMap_cons, List.flatMap_cons]
  exact (Text.unlines_append (List.cons_ne_nil [] _)).trans (congrArg _ empty)

/-- **When metadata stays.**  A text that begins with a metadata block begins with the same block
after reflow exactly when wrapping the lines of the block changes nothing. -/
theorem Leads.isPrefix_reflow_iff {width : Nat} (positive : width ≠ 0) :
    Text.terminated fields ++ ['\n'] <+: reflow width t ↔ rewrap width fields = fields := by
  rw [leads.reflow_eq positive]
  constructor
  · rintro ⟨rest, same⟩
    rw [List.append_assoc, List.singleton_append] at same
    have shown : ∀ line ∈ rewrap width fields, '\n' ∉ line ∧ line ≠ [] := by
      have first : Segment.paragraph fields ∈ segments t := by simp [leads.segments_eq]
      have flowing := leads.allFlowing.rewrap width leads.nonempty
      intro line member
      refine ⟨feed_not_mem_of_mem_reflowed first member, ?_⟩
      rintro rfl
      obtain ⟨next, flows⟩ := flowing.isFlowing_of_mem member
      exact absurd ((Segment.isFlowing_iff [] next).mp flows).1 (by decide)
    exact (Text.eq_of_terminated_eq (fun line member => leads.clean member) shown same).symm
  · intro same
    rw [same]
    exact ⟨reflow width body, by rw [List.append_assoc, List.singleton_append]⟩

end Metadata

/-- A line that is an attribute list by itself. -/
def Line.IsAttributeList (line : Text) : Prop := (Marker.attributeListLine none line).isSome

instance : DecidablePred Line.IsAttributeList := fun line =>
  inferInstanceAs (Decidable ((Marker.attributeListLine none line).isSome = true))

/-- **What reflow does to dialect syntax.**  Attribute lists outside paragraphs and in paragraphs
that are filled already stay lines of their own.  In a paragraph all of whose words may lead, a list
written with single spaces stays between the wrapped lines around it exactly when it stands apart.
A leading metadata block stays exactly when wrapping its lines changes nothing, which for words that
may lead means that they are filled already. -/
theorem reflow_keeps_filled_syntax {width : Nat} (positive : width ≠ 0) (t : Text) :
    (∀ segment ∈ segments t, (∀ ls, segment = .paragraph ls → IsFilled width ls) →
      ∀ line ∈ segment.lines, Line.IsAttributeList line → line ∈ Text.lines (reflow width t)) ∧
    (∀ before line after, Segment.paragraph (before ++ line :: after) ∈ segments t →
      Line.IsAttributeList line → Text.unwords (Text.words line) = line →
      (∀ word ∈ paragraphWords (before ++ line :: after), Wrap.canLead word) →
        (StandsApart width before line after → line ∈ Text.lines (reflow width t)) ∧
        (rewrap width (before ++ line :: after) =
          wrapped width before ++ line :: wrapped width after ↔
            StandsApart width before line after)) ∧
    ∀ fields body, Metadata.Leads fields body t →
      (Text.terminated fields ++ ['\n'] <+: reflow width t ↔ rewrap width fields = fields) ∧
      ((∀ word ∈ paragraphWords fields, Wrap.canLead word) →
        (Text.terminated fields ++ ['\n'] <+: reflow width t ↔ IsFilled width fields)) := by
  have stays {segment : Segment} {line : Text} (present : segment ∈ segments t)
      (member : line ∈ segment.reflowed width) : line ∈ Text.lines (reflow width t) := by
    rw [lines_reflow positive]
    exact List.mem_flatMap.mpr ⟨segment, present, member⟩
  refine ⟨?_, ?_, ?_⟩
  · intro segment present filled line member _
    refine stays present ?_
    cases segment with
    | verbatim other => exact member
    | paragraph ls =>
      rw [Segment.reflowed, rewrap_of_isFilled (filled ls rfl)]
      exact member
  · intro before line after present _ even lead
    have shown : Line.isBlank line = false := by
      obtain ⟨next, flows⟩ := (segmentation_segments t).isFlowing_of_mem present
        (List.mem_append_right before List.mem_cons_self)
      exact ((Segment.isFlowing_iff line next).mp flows).1
    have law := rewrap_append_cons_iff width lead shown even
    refine ⟨fun apart => stays present ?_, law⟩
    rw [Segment.reflowed, law.mpr apart]
    exact List.mem_append_right _ List.mem_cons_self
  · intro fields body leads
    refine ⟨leads.isPrefix_reflow_iff positive, fun lead => ?_⟩
    rw [leads.isPrefix_reflow_iff positive, rewrap_eq_self_iff lead]

/-- Two metadata lines and an attribute list at a width that leaves no room behind any line. -/
theorem reflow_keeps_filled_syntax_at_twelve :
    "\x7b: .note\x7d".toList ∈ Text.lines (reflow 12
        "Title: Notes\nAuthor: Ada\n\nSome words\n\x7b: .note\x7d".toList) ∧
      "Title: Notes\nAuthor: Ada\n\n".toList <+: reflow 12
        "Title: Notes\nAuthor: Ada\n\nSome words\n\x7b: .note\x7d".toList := by
  have leads : Metadata.Leads ["Title: Notes".toList, "Author: Ada".toList]
      "Some words\n\x7b: .note\x7d".toList
      "Title: Notes\nAuthor: Ada\n\nSome words\n\x7b: .note\x7d".toList :=
    ⟨by decide, by unfold Metadata.IsLine; decide, by decide⟩
  have positive : 12 ≠ 0 := by decide
  obtain ⟨_, lists, blocks⟩ := reflow_keeps_filled_syntax positive
    "Title: Notes\nAuthor: Ada\n\nSome words\n\x7b: .note\x7d".toList
  refine ⟨(lists ["Some words".toList] _ [] ?_ ?_ ?_ ?_).1 ?_,
    ((blocks _ _ leads).2 ?_).mpr ?_⟩ <;> decide +kernel

/-- **Reflow joins dialect syntax.**  What comes back to Kramdown is an attribute list below a line
of text, and what comes back to MultiMarkdown a block of two fields; at forty columns the list is no
line of its own and the block is gone. -/
theorem reflow_joins_syntax :
    ((({} : Converter).registry.postprocess .kramdown
        "Para\n\n<!--kramdown-attrlist:\x7b: .note\x7d-->".toList).toOption =
          some "Para\n\x7b: .note\x7d".toList ∧
      Line.IsAttributeList "\x7b: .note\x7d".toList ∧
      "\x7b: .note\x7d".toList ∈ Text.lines "Para\n\x7b: .note\x7d".toList ∧
      "\x7b: .note\x7d".toList ∉ Text.lines (reflow 40 "Para\n\x7b: .note\x7d".toList)) ∧
    ((({} : Converter).registry.postprocess .multiMarkdown
        "<!--mmd-meta-start\nTitle: Notes\nAuthor: Ada\nmmd-meta-end-->\n\nBody".toList).toOption =
          some "Title: Notes\nAuthor: Ada\n\nBody".toList ∧
      (Marker.metadataBlock none "Title: Notes\nAuthor: Ada\n\nBody".toList).map Match.whole =
        some "Title: Notes\nAuthor: Ada\n\n".toList ∧
      ¬ "Title: Notes\nAuthor: Ada\n\n".toList <+:
        reflow 40 "Title: Notes\nAuthor: Ada\n\nBody".toList) := by
  refine ⟨⟨?_, ?_, ?_, ?_⟩, ?_, ?_, ?_⟩ <;> decide +kernel

end MarkdownDialects
