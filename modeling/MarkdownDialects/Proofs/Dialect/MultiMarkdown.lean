import MarkdownDialects.Dialect.Builtin
import MarkdownDialects.Proofs.Substitution.Scan
import MarkdownDialects.Proofs.Text.Words

/-!
# Metadata there and back

A text may begin with a block of metadata lines and an empty line (`Metadata.Leads`).  The search
for such a block finds it where there is one and nothing else (`Marker.metadataBlock_eq_some_iff`).
Wrapped in a comment the block comes back as it was, and a dialect without metadata drops it
together with the empty lines after it (`emit_ingest_metadata`).
-/

namespace MarkdownDialects

namespace Metadata

open Text (terminated)

/-- A metadata line on its own. -/
def IsLine (line : Text) : Prop := '\n' ∉ line ∧ Marker.isMetadataLine line

/-- A text begins with one or more metadata lines and an empty line, and goes on with `body`. -/
structure Leads (fields : List Text) (body t : Text) : Prop where
  nonempty : fields ≠ []
  isLine : ∀ line ∈ fields, IsLine line
  whole : t = terminated fields ++ '\n' :: body

end Metadata

namespace Marker

open Metadata Text

/-! ## Reading metadata lines -/

theorem metadataLines_feed (line t : Text) :
    metadataLines line ('\n' :: t) =
      if isMetadataLine line.reverse then
        (line.reverse ++ '\n' :: (metadataLines [] t).1, (metadataLines [] t).2)
      else ([], line.reverse ++ '\n' :: t) := by
  rw [metadataLines]

theorem metadataLines_cons {c : Char} (other : c ≠ '\n') (line t : Text) :
    metadataLines line (c :: t) = metadataLines (c :: line) t := by
  rw [metadataLines]
  exact other

/-- A line is collected up to its line feed. -/
theorem metadataLines_append {front : Text} (clean : '\n' ∉ front) (line rest : Text) :
    metadataLines line (front ++ rest) = metadataLines (front.reverse ++ line) rest := by
  induction front generalizing line with
  | nil => rfl
  | cons c front ih =>
    have other : c ≠ '\n' := fun same => clean (same ▸ List.mem_cons_self)
    rw [List.cons_append, metadataLines_cons other,
      ih fun member => clean (List.mem_cons_of_mem c member), List.reverse_cons, List.append_assoc,
      List.singleton_append]

/-- Metadata lines are read up to an empty line. -/
theorem metadataLines_terminated {fields : List Text} (isLine : ∀ line ∈ fields, IsLine line)
    (body : Text) :
    metadataLines [] (terminated fields ++ '\n' :: body) = (terminated fields, '\n' :: body) := by
  induction fields with
  | nil => rfl
  | cons line fields ih =>
    have others := ih fun other member => isLine other (List.mem_cons_of_mem _ member)
    obtain ⟨clean, marked⟩ := isLine line List.mem_cons_self
    rw [terminated_cons, List.append_assoc, List.cons_append, metadataLines_append clean,
      List.append_nil, metadataLines_feed, List.reverse_reverse, if_pos marked, others]

/-- What is read are metadata lines, and nothing is lost. -/
theorem exists_of_metadataLines {line : Text} (clean : '\n' ∉ line) (t : Text) :
    ∃ fields, (∀ other ∈ fields, IsLine other) ∧
      (metadataLines line t).1 = terminated fields ∧
      line.reverse ++ t = (metadataLines line t).1 ++ (metadataLines line t).2 := by
  -- Along the text, with the line read so far in reverse: a line counts once it is complete.
  induction t generalizing line with
  | nil => exact ⟨[], by simp, rfl, by simp [metadataLines]⟩
  | cons c t ih =>
    by_cases feed : c = '\n'
    · subst feed
      rw [metadataLines_feed]
      split
      · rename_i marked
        obtain ⟨fields, isLine, block, whole⟩ := ih List.not_mem_nil
        refine ⟨line.reverse :: fields, ?_, ?_, ?_⟩
        · intro other member
          rcases List.mem_cons.mp member with rfl | member
          · exact ⟨fun inside => clean (List.mem_reverse.mp inside), marked⟩
          · exact isLine other member
        · rw [terminated_cons, block]
        · rw [List.append_assoc, List.cons_append, ← whole]
          rfl
      · exact ⟨[], by simp, rfl, rfl⟩
    · rw [metadataLines_cons feed]
      have next : '\n' ∉ c :: line := by
        rw [List.mem_cons, not_or]
        exact ⟨Ne.symm feed, clean⟩
      obtain ⟨fields, isLine, block, whole⟩ := ih next
      refine ⟨fields, isLine, block, ?_⟩
      rw [← whole, List.reverse_cons, List.append_assoc, List.singleton_append]

/-- The match of a block of metadata lines with the empty line after it. -/
def metadataMatch (fields : List Text) : Match := ⟨terminated fields ++ ['\n'], []⟩

/-- **A metadata block is found exactly where one leads the text.** -/
theorem metadataBlock_eq_some_iff {t : Text} {m : Match} :
    metadataBlock none t = some m ↔
      ∃ fields body, Leads fields body t ∧ m = metadataMatch fields := by
  constructor
  · intro found
    obtain ⟨fields, isLine, block, whole⟩ := exists_of_metadataLines List.not_mem_nil t
    unfold metadataBlock at found
    obtain ⟨_, _, found⟩ := Option.bind_eq_some_iff.mp found
    generalize metadataLines [] t = read at found block whole
    obtain ⟨first, rest⟩ := read
    split at found
    · rename_i c cs body same
      obtain ⟨rfl, rfl⟩ := Prod.mk.inj same
      obtain rfl := Option.some.inj found
      refine ⟨fields, body, ⟨?_, isLine, ?_⟩, ?_⟩
      · rintro rfl
        exact nomatch block
      · rw [← block]
        exact whole
      · rw [metadataMatch, ← block]
    · exact nomatch found
  · rintro ⟨fields, body, ⟨nonempty, isLine, rfl⟩, rfl⟩
    obtain ⟨line, others, rfl⟩ := List.exists_cons_of_ne_nil nonempty
    unfold metadataBlock
    rw [metadataLines_terminated isLine, metadataMatch]
    cases shown : terminated (line :: others) with
    | nil =>
      rw [terminated_cons] at shown
      exact absurd (List.append_eq_nil_iff.mp shown).2 (List.cons_ne_nil _ _)
    | cons c cs => rfl

/-! ## Wrapping and unwrapping -/

/-- A metadata block as it is carried: a comment, an empty line, and the rest of the text. -/
def carriedMetadata (fields : List Text) (body : Text) : Text :=
  metadataOpen ++ terminated fields ++ metadataClose ++ '\n' :: '\n' :: body

/-- Only the start of a text can hold a metadata block. -/
theorem metadataBlock_behind (c : Char) (t : Text) : metadataBlock (some c) t = none := rfl

theorem replaceAll_metadataBlock_of_leads {fields : List Text} {body t : Text}
    (leads : Leads fields body t) :
    metadataBlock.replaceAll wrapMetadata t = carriedMetadata fields body := by
  have found := metadataBlock_eq_some_iff.mpr ⟨fields, body, leads, rfl⟩
  have whole : t = (metadataMatch fields).whole ++ body := by
    rw [leads.whole, metadataMatch, List.append_assoc, List.singleton_append]
  rw [whole] at found ⊢
  rw [Pattern.replaceAll_append_of_silent (by simp [metadataMatch]) found
    fun c s _ => metadataBlock_behind c s]
  simp only [wrapMetadata, metadataMatch, Text.before?_append, Option.getD_some, carriedMetadata,
    List.append_assoc, List.cons_append, List.nil_append]

theorem replaceAll_metadataBlock_of_not_leads {t : Text}
    (missing : ∀ fields body, ¬ Leads fields body t) :
    metadataBlock.replaceAll wrapMetadata t = t := by
  refine Pattern.replaceAll_of_silent_behind ?_ fun c s _ => metadataBlock_behind c s
  rw [Option.eq_none_iff_forall_ne_some]
  intro m found
  obtain ⟨fields, body, leads, _⟩ := metadataBlock_eq_some_iff.mp found
  exact missing fields body leads

section Unclosed

variable {t : Text} (unclosed : ¬ metadataClose <:+: t)
include unclosed

/-- What opens as a carried block is never closed. -/
theorem cutAt?_metadataClose_eq_none {inside : Text}
    (opened : Text.after? metadataOpen t = some inside) :
    Text.cutAt? metadataClose inside = none := by
  apply Text.cutAt?_eq_none (by decide)
  intro found
  rw [← Text.after?_eq_some_iff.mp opened] at unclosed
  exact unclosed (found.trans (List.suffix_append _ inside).isInfix)

theorem metadataMarker_eq_none (before : Option Char) : metadataMarker before t = none := by
  unfold metadataMarker
  cases opened : Text.after? metadataOpen t with
  | none => rfl
  | some inside =>
    rw [Option.bind_eq_bind, Option.bind_some, cutAt?_metadataClose_eq_none unclosed opened]
    rfl

theorem metadataMarkerBlock_eq_none (before : Option Char) :
    metadataMarkerBlock before t = none := by
  unfold metadataMarkerBlock
  cases Pattern.atLineStart before with
  | false => rfl
  | true =>
    cases opened : Text.after? metadataOpen t with
    | none => rfl
    | some inside =>
      rw [Option.bind_eq_bind, Option.bind_eq_bind, Option.bind_some,
        cutAt?_metadataClose_eq_none unclosed opened]
      rfl

end Unclosed

section Carried

variable {fields : List Text} {body t : Text} (leads : Leads fields body t)
  (unclosed : ¬ metadataClose <:+: t)
include leads unclosed

theorem cutAt?_metadataClose_terminated (rest : Text) :
    Text.cutAt? metadataClose (terminated fields ++ metadataClose ++ rest) =
      some (terminated fields, rest) := by
  have ends := terminated_eq_unlines leads.nonempty
  have within : terminated fields <:+: t := by
    rw [leads.whole]
    exact (List.prefix_append _ _).isInfix
  rw [ends] at within ⊢
  exact Text.cutAt?_concat_append (by decide) (by decide) rest
    fun found => unclosed (found.trans within)

/-- What is carried behind the block is not closed either. -/
theorem not_metadataClose_isInfix_of_suffix {s : Text} (inside : s <:+ '\n' :: body) :
    ¬ metadataClose <:+: s := by
  intro found
  rw [leads.whole] at unclosed
  exact unclosed (found.trans (inside.trans (List.suffix_append _ _)).isInfix)

/-- A carried block is unwrapped to the text it was made from. -/
theorem replaceAll_metadataMarker_carried :
    metadataMarker.replaceAll (Template.expand "$1".toList) (carriedMetadata fields body) = t := by
  let m : Match := ⟨metadataOpen ++ terminated fields ++ metadataClose ++ ['\n'],
    [terminated fields]⟩
  have whole : carriedMetadata fields body = m.whole ++ '\n' :: body := by
    simp only [carriedMetadata, m, List.append_assoc, List.cons_append, List.nil_append]
  have found : metadataMarker none (m.whole ++ '\n' :: body) = some m := by
    have cut := cutAt?_metadataClose_terminated leads unclosed ('\n' :: '\n' :: body)
    rw [← whole]
    unfold metadataMarker carriedMetadata
    rw [List.append_assoc, List.append_assoc, Text.after?_append, ← List.append_assoc,
      Option.bind_eq_bind, Option.bind_some, cut]
    rfl
  have shown : Template.expand "$1".toList m = terminated fields :=
    List.append_nil (terminated fields)
  rw [whole, Pattern.replaceAll_append_of_silent (by simp [m]) found, shown, leads.whole]
  intro c s inside
  exact metadataMarker_eq_none (not_metadataClose_isInfix_of_suffix leads unclosed inside) (some c)

/-- A carried block is dropped with all empty lines after it. -/
theorem replaceAll_metadataMarkerBlock_carried :
    metadataMarkerBlock.replaceAll (Replacement.literal []).ofMatch (carriedMetadata fields body) =
      body.dropWhile (· == '\n') := by
  let m : Match := ⟨metadataOpen ++ terminated fields ++ metadataClose ++
    '\n' :: '\n' :: body.takeWhile (· == '\n'), []⟩
  have whole : carriedMetadata fields body = m.whole ++ body.dropWhile (· == '\n') := by
    simp only [carriedMetadata, m, List.append_assoc, List.cons_append,
      List.takeWhile_append_dropWhile]
  have found : metadataMarkerBlock none (m.whole ++ body.dropWhile (· == '\n')) = some m := by
    have cut := cutAt?_metadataClose_terminated leads unclosed ('\n' :: '\n' :: body)
    rw [← whole]
    unfold metadataMarkerBlock carriedMetadata
    rw [List.append_assoc, List.append_assoc, Text.after?_append, ← List.append_assoc,
      Option.bind_eq_bind, Option.bind_eq_bind, Option.bind_some, cut]
    rfl
  rw [whole, Pattern.replaceAll_append_of_silent (by simp [m]) found]
  · rfl
  · intro c s inside
    have behind : s <:+ '\n' :: body :=
      inside.trans ((List.dropWhile_suffix _).trans (List.suffix_cons '\n' body))
    exact metadataMarkerBlock_eq_none (not_metadataClose_isInfix_of_suffix leads unclosed behind)
      (some c)

end Carried

/-! ## Attribute lists around a carried block -/

/-- A line with a wrapped attribute list holds the start of one. -/
theorem attributeListMarkerLine_eq_none {t : Text} (absent : ¬ attributeListOpen <:+: t)
    (before : Option Char) : attributeListMarkerLine before t = none := by
  have missing : Text.after? attributeListOpen
      (((t.dropWhile (· == '\n')).takeWhile (· != '\n')).dropWhile isGap) = none := by
    rw [Text.after?_eq_none_iff]
    intro found
    have inLine := found.isInfix.trans (List.dropWhile_suffix isGap).isInfix
    have inText := inLine.trans (List.takeWhile_prefix (· != '\n')).isInfix
    exact absent (inText.trans (List.dropWhile_suffix (· == '\n')).isInfix)
  rw [Option.eq_none_iff_forall_ne_some]
  intro m found
  obtain ⟨_, _, found⟩ := Option.bind_eq_some_iff.mp found
  obtain ⟨inside, opened, _⟩ := Option.bind_eq_some_iff.mp found
  exact absurd (missing.symm.trans opened) (Option.some_ne_none inside).symm

/-- Carrying a metadata block brings no attribute list into a text. -/
theorem not_attributeListOpen_isInfix_carried {fields : List Text} {body t : Text}
    (leads : Leads fields body t) (absent : ¬ attributeListOpen <:+: t) :
    ¬ attributeListOpen <:+: carriedMetadata fields body := by
  have noFeed : '\n' ∉ attributeListOpen := by decide
  have ends := terminated_eq_unlines leads.nonempty
  have opening : metadataOpen = "<!--mmd-meta-start".toList ++ ['\n'] := rfl
  rw [leads.whole, ends] at absent
  rw [carriedMetadata, ends, opening]
  simp only [List.append_assoc, List.cons_append, List.nil_append,
    Text.isInfix_append_cons_iff noFeed, not_or] at absent ⊢
  exact ⟨by decide, absent.1, by decide, absent.2⟩

end Marker

namespace Dialect

open Metadata (Leads)

theorem apply_multiMarkdown_ingest (t : Text) :
    RuleSet.apply (builtin .multiMarkdown).ingest t =
      Marker.metadataBlock.replaceAll Marker.wrapMetadata t := rfl

theorem apply_multiMarkdown_emit (t : Text) :
    RuleSet.apply (builtin .multiMarkdown).emit t =
      Marker.metadataMarker.replaceAll (Template.expand "$1".toList) t := rfl

/-- Without attribute lists only carried metadata is dropped for a dialect that has neither. -/
theorem apply_commonMark_emit {t : Text} (absent : ¬ Marker.attributeListOpen <:+: t) :
    RuleSet.apply (builtin .commonMark).emit t =
      Marker.metadataMarkerBlock.replaceAll (Replacement.literal []).ofMatch t := by
  have kept : Marker.attributeListMarkerLine.replaceAll (Replacement.literal []).ofMatch t = t :=
    Pattern.replaceAll_of_silent fun before s inside =>
      Marker.attributeListMarkerLine_eq_none
        (fun found => absent (found.trans inside.isInfix)) before
  calc RuleSet.apply (builtin .commonMark).emit t
      = Marker.metadataMarkerBlock.replaceAll (Replacement.literal []).ofMatch
          (Marker.attributeListMarkerLine.replaceAll (Replacement.literal []).ofMatch t) := rfl
    _ = _ := by rw [kept]

section Metadata

variable {t : Text} (unclosed : ¬ Marker.metadataClose <:+: t)
include unclosed

theorem apply_multiMarkdown_emit_ingest :
    RuleSet.apply (builtin .multiMarkdown).emit
      (RuleSet.apply (builtin .multiMarkdown).ingest t) = t := by
  rw [apply_multiMarkdown_ingest, apply_multiMarkdown_emit]
  by_cases led : ∃ fields body, Leads fields body t
  · obtain ⟨fields, body, leads⟩ := led
    rw [Marker.replaceAll_metadataBlock_of_leads leads,
      Marker.replaceAll_metadataMarker_carried leads unclosed]
  · have missing : ∀ fields body, ¬ Leads fields body t := fun fields body leads =>
      led ⟨fields, body, leads⟩
    rw [Marker.replaceAll_metadataBlock_of_not_leads missing]
    exact Pattern.replaceAll_of_silent fun before s inside =>
      Marker.metadataMarker_eq_none (fun found => unclosed (found.trans inside.isInfix)) before

variable (absent : ¬ Marker.attributeListOpen <:+: t)
include absent

/-- A metadata block is dropped with the empty lines after it. -/
theorem apply_commonMark_emit_of_leads {fields : List Text} {body : Text}
    (leads : Leads fields body t) :
    RuleSet.apply (builtin .commonMark).emit (RuleSet.apply (builtin .multiMarkdown).ingest t) =
      body.dropWhile (· == '\n') := by
  rw [apply_multiMarkdown_ingest, Marker.replaceAll_metadataBlock_of_leads leads,
    apply_commonMark_emit (Marker.not_attributeListOpen_isInfix_carried leads absent),
    Marker.replaceAll_metadataMarkerBlock_carried leads unclosed]

theorem apply_commonMark_emit_of_not_leads (missing : ∀ fields body, ¬ Leads fields body t) :
    RuleSet.apply (builtin .commonMark).emit (RuleSet.apply (builtin .multiMarkdown).ingest t) =
      t := by
  rw [apply_multiMarkdown_ingest, Marker.replaceAll_metadataBlock_of_not_leads missing,
    apply_commonMark_emit absent]
  exact Pattern.replaceAll_of_silent fun before s inside =>
    Marker.metadataMarkerBlock_eq_none (fun found => unclosed (found.trans inside.isInfix)) before

end Metadata

end Dialect

/-- **Metadata round-trips.**  A text that does not contain the end of a carried metadata block
comes back unchanged.  A dialect without metadata gets the same text without its leading block and
the empty lines after it, as long as there is no wrapped attribute list in the text. -/
theorem emit_ingest_metadata {t : Text} (unclosed : ¬ Marker.metadataClose <:+: t) :
    RuleSet.apply (Dialect.builtin .multiMarkdown).emit
        (RuleSet.apply (Dialect.builtin .multiMarkdown).ingest t) = t ∧
      (¬ Marker.attributeListOpen <:+: t →
        (∀ fields body, Metadata.Leads fields body t →
          RuleSet.apply (Dialect.builtin .commonMark).emit
            (RuleSet.apply (Dialect.builtin .multiMarkdown).ingest t) =
              body.dropWhile (· == '\n')) ∧
        ((∀ fields body, ¬ Metadata.Leads fields body t) →
          RuleSet.apply (Dialect.builtin .commonMark).emit
            (RuleSet.apply (Dialect.builtin .multiMarkdown).ingest t) = t)) :=
  ⟨Dialect.apply_multiMarkdown_emit_ingest unclosed, fun absent =>
    ⟨fun _ _ leads => Dialect.apply_commonMark_emit_of_leads unclosed absent leads,
      Dialect.apply_commonMark_emit_of_not_leads unclosed absent⟩⟩

/-- Two fields, three empty lines, and a body that opens a block again. -/
theorem emit_ingest_metadata_of_two_fields :
    ¬ Marker.metadataClose <:+: "Title: A\nauthor_2:\tB: C\n\n\n\n<!--mmd-meta-start\nx".toList ∧
      ¬ Marker.attributeListOpen <:+:
        "Title: A\nauthor_2:\tB: C\n\n\n\n<!--mmd-meta-start\nx".toList ∧
      Metadata.Leads ["Title: A".toList, "author_2:\tB: C".toList]
        "\n\n<!--mmd-meta-start\nx".toList
        "Title: A\nauthor_2:\tB: C\n\n\n\n<!--mmd-meta-start\nx".toList ∧
      RuleSet.apply (Dialect.builtin .multiMarkdown).emit
          (RuleSet.apply (Dialect.builtin .multiMarkdown).ingest
            "Title: A\nauthor_2:\tB: C\n\n\n\n<!--mmd-meta-start\nx".toList) =
        "Title: A\nauthor_2:\tB: C\n\n\n\n<!--mmd-meta-start\nx".toList ∧
      RuleSet.apply (Dialect.builtin .commonMark).emit
          (RuleSet.apply (Dialect.builtin .multiMarkdown).ingest
            "Title: A\nauthor_2:\tB: C\n\n\n\n<!--mmd-meta-start\nx".toList) =
        "<!--mmd-meta-start\nx".toList := by
  have unclosed : ¬ Marker.metadataClose <:+:
      "Title: A\nauthor_2:\tB: C\n\n\n\n<!--mmd-meta-start\nx".toList := by decide
  have absent : ¬ Marker.attributeListOpen <:+:
      "Title: A\nauthor_2:\tB: C\n\n\n\n<!--mmd-meta-start\nx".toList := by decide
  have leads : Metadata.Leads ["Title: A".toList, "author_2:\tB: C".toList]
      "\n\n<!--mmd-meta-start\nx".toList
      "Title: A\nauthor_2:\tB: C\n\n\n\n<!--mmd-meta-start\nx".toList :=
    ⟨by decide, by unfold Metadata.IsLine; decide, by decide⟩
  obtain ⟨back, dropped⟩ := emit_ingest_metadata unclosed
  exact ⟨unclosed, absent, leads, back, (dropped absent).1 _ _ leads⟩

end MarkdownDialects
