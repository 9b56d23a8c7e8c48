import MarkdownDialects.Proofs.Dialect.Obsidian.Written

/-!
# Notes of any name

The name of a note may have parentheses, percent signs and angle brackets in it.  Its destination is
written without escaping them, so the name that is read back need not be the one that was written.
It is if the name has no closing parenthesis, which would end the destination, if percent decoding
leaves it alone, and if it does not stand in angle brackets itself (`Obsidian.Survives`).  A
reference to a note comes back from the neutral form exactly then (`emit_ingest_mention_iff`).
-/

namespace MarkdownDialects

namespace Obsidian

/-- A name that a note may have: it lacks the marks of references, highlights, callouts and escapes,
and no others. -/
structure VaultName extends LinkText "[]|=!\\".toList where
  internal : looksInternal text

/-- What an aliased reference shows in the place of such a name. -/
abbrev VaultAlias := LinkText "[]|=!/\\".toList

/-- One reference to a note, in each of the forms that there are. -/
inductive Mention (name : VaultName) where
  | link
  | aliased (shown : VaultAlias) (differs : shown.text ≠ name.text)
  | embed

/-- A reference as Obsidian writes it. -/
def Mention.written {name : VaultName} : Mention name → Text
  | link => reference "[[".toList name.text none
  | aliased shown _ => reference "[[".toList name.text (some shown.text)
  | embed => reference "![[".toList name.text none

/-- The text stands in angle brackets although it has no white space. -/
def IsBracketed (t : Text) : Prop :=
  t.any Text.isBlank = false ∧ ∃ inside, t = ['<'] ++ inside ++ ['>']

/-- A name that is the same behind its destination. -/
structure Survives (t : Text) : Prop where
  closed : ')' ∉ t
  unencoded : Percent.decode t = t
  bare : ¬ IsBracketed t

/-- What names of notes and aliases have in common. -/
structure IsShown (t : Text) : Prop where
  nonempty : t ≠ []
  trimmed : Text.trim t = t
  noOpening : '[' ∉ t
  noClosing : ']' ∉ t
  single : '|' ∉ t
  noEquals : '=' ∉ t
  noImage : '!' ∉ t
  unescaped : '\\' ∉ t
  flat : '/' ∉ t

theorem VaultName.isShown (name : VaultName) : IsShown name.text := by
  have clean := name.clean
  simp [Lacks] at clean
  obtain ⟨opening, closing, pipe, equals, image, escape⟩ := clean
  exact ⟨name.nonempty, name.trimmed, opening, closing, pipe, equals, image, escape,
    slash_not_mem_of_looksInternal name.internal⟩

theorem VaultAlias.isShown (shown : VaultAlias) : IsShown shown.text := by
  have clean := shown.clean
  simp [Lacks] at clean
  obtain ⟨opening, closing, pipe, equals, image, slash, escape⟩ := clean
  exact ⟨shown.nonempty, shown.trimmed, opening, closing, pipe, equals, image, escape, slash⟩

/-! ## The name that is read back -/

/-- Taking off angle brackets changes only a text that stands in them. -/
theorem unbracket_eq_self {t : Text} (bare : ¬ ∃ inside, t = ['<'] ++ inside ++ ['>']) :
    unbracket t = t := by
  unfold unbracket
  cases opened : Text.after? ['<'] t with
  | none => rfl
  | some rest =>
    rw [Option.bind_some]
    cases closed : Text.before? ['>'] rest with
    | none => rfl
    | some inside =>
      refine absurd ⟨inside, ?_⟩ bare
      rw [List.append_assoc, Text.before?_eq_some_iff.mp closed, Text.after?_eq_some_iff.mp opened]

/-- **Which names are read back.**  Brackets around a name without white space are taken for those
of its destination, and what is inside them is shorter than the name. -/
theorem noteTarget_linkDestination_iff {t : Text} (trimmed : Text.trim t = t) :
    noteTarget (linkDestination t) = t ↔ Percent.decode t = t ∧ ¬ IsBracketed t := by
  unfold noteTarget linkDestination
  split
  next blank =>
    have bare : ¬ IsBracketed t := fun bracketed => Bool.noConfusion (blank.symm.trans bracketed.1)
    rw [trim_angled, unbracket_angled]
    exact (and_iff_left bare).symm
  next solid =>
    rw [Bool.not_eq_true] at solid
    rw [trimmed]
    by_cases bracketed : ∃ inside, t = ['<'] ++ inside ++ ['>']
    · obtain ⟨inside, rfl⟩ := bracketed
      rw [unbracket_angled]
      refine ⟨fun same => ?_, fun bare => absurd ⟨solid, inside, rfl⟩ bare.2⟩
      have shorter := Percent.length_decode_le inside
      rw [same, List.length_append, List.length_append, List.length_singleton] at shorter
      omega
    · rw [unbracket_eq_self bracketed]
      exact (and_iff_left fun found => bracketed found.2).symm

theorem survives_iff {t : Text} (trimmed : Text.trim t = t) :
    Survives t ↔ ')' ∉ t ∧ noteTarget (linkDestination t) = t := by
  rw [noteTarget_linkDestination_iff trimmed]
  exact ⟨fun ⟨closed, unencoded, bare⟩ => ⟨closed, unencoded, bare⟩,
    fun ⟨closed, unencoded, bare⟩ => ⟨closed, unencoded, bare⟩⟩

/-- A destination has the closing parentheses of its name. -/
theorem paren_mem_linkDestination_iff {t : Text} : ')' ∈ linkDestination t ↔ ')' ∈ t := by
  unfold linkDestination
  split <;> simp

/-! ## Into the neutral form -/

/-- The rules that ingest Obsidian, one after the other. -/
theorem apply_ingestRules_eq (t : Text) :
    RuleSet.apply ingestRules t =
      highlightPattern.replaceAll (Template.expand "**$1**".toList)
        (calloutPattern.replaceAll callout
          (wikiLinkPattern.replaceAll wikiLink
            (aliasedLinkPattern.replaceAll aliasedLink (embedPattern.replaceAll embed t)))) := by
  simp only [ingestRules, RuleSet.apply_cons, RuleSet.apply_nil, Rule.apply_compute,
    Rule.apply_template]

/-- A text with one opening bracket has no double one. -/
theorem not_doubleBracket_isInfix {front rest : Text} (before : '[' ∉ front) (behind : '[' ∉ rest) :
    ¬ "[[".toList <:+: front ++ '[' :: rest := by
  intro found
  have counts := found.sublist.count_le '['
  rw [List.count_append, List.count_cons_self, List.count_eq_zero_of_not_mem before,
    List.count_eq_zero_of_not_mem behind] at counts
  exact absurd counts (by decide)

/-- A reference without a pipe shows no alias. -/
theorem replaceAll_aliasedLinkPattern_of_not_mem {t : Text} (single : '|' ∉ t) :
    aliasedLinkPattern.replaceAll aliasedLink t = t := by
  apply Pattern.replaceAll_of_silent
  intro before s inside
  rw [Option.eq_none_iff_forall_ne_some]
  intro m found
  obtain ⟨target, shown, rfl, front⟩ := aliasedLinkPattern_eq_some found
  exact single (inside.subset (front.subset (by simp)))

/-- The rules that come behind those for references find nothing without their marks. -/
theorem replaceAll_behind_references {t : Text} (noCallout : ¬ "[!".toList <:+: t)
    (noEquals : '=' ∉ t) :
    highlightPattern.replaceAll (Template.expand "**$1**".toList)
      (calloutPattern.replaceAll callout t) = t := by
  have callouts : calloutPattern.replaceAll callout t = t :=
    Pattern.replaceAll_of_silent fun before s inside =>
      calloutPattern_eq_none fun found => noCallout (found.trans inside.isInfix)
  rw [callouts]
  exact highlightPattern_opens.replaceAll_of_absent fun found =>
    noEquals (found.subset List.mem_cons_self)

theorem replaceAll_embedPattern_of_not_mem {t : Text} (noImage : '!' ∉ t) :
    embedPattern.replaceAll embed t = t :=
  embedPattern_opens.replaceAll_of_absent fun found => noImage (found.subset List.mem_cons_self)

section Ingested

variable {target : Text} (named : IsShown target)
include named

section Link

variable {shown : Text} (inShown : IsShown shown)
include inShown

theorem not_doubleBracket_isInfix_linkTo :
    ¬ "[[".toList <:+: linkTo shown (linkDestination target) := by
  have behind : '[' ∉ shown ++ "](".toList ++ linkDestination target ++ [')'] := by
    simp [inShown.noOpening, not_mem_linkDestination named.noOpening]
  have single := not_doubleBracket_isInfix List.not_mem_nil behind
  simpa [linkTo] using single

theorem image_not_mem_linkTo_linkDestination : '!' ∉ linkTo shown (linkDestination target) := by
  simp [linkTo, inShown.noImage, not_mem_linkDestination named.noImage]

/-- No other rule rewrites the link that stands for a reference. -/
theorem replaceAll_behind_linkTo :
    highlightPattern.replaceAll (Template.expand "**$1**".toList)
        (calloutPattern.replaceAll callout (linkTo shown (linkDestination target))) =
      linkTo shown (linkDestination target) := by
  have noImage := image_not_mem_linkTo_linkDestination named inShown
  have noEquals : '=' ∉ linkTo shown (linkDestination target) := by
    simp [linkTo, inShown.noEquals, not_mem_linkDestination named.noEquals]
  exact replaceAll_behind_references (fun found => noImage (found.subset (by simp))) noEquals

end Link

theorem apply_ingestRules_link :
    RuleSet.apply ingestRules (reference "[[".toList target none) =
      linkTo target (linkDestination target) := by
  have noImage : '!' ∉ reference "[[".toList target none := by simp [reference, named.noImage]
  have single : '|' ∉ reference "[[".toList target none := by simp [reference, named.single]
  have found := wikiLinkPattern_append none [] named.nonempty named.noClosing
  rw [List.append_nil] at found
  have replaced : wikiLinkPattern.replaceAll wikiLink (reference "[[".toList target none) =
      linkTo target (linkDestination target) :=
    wikiLinkPattern_proper.replaceAll_of_match found
  rw [apply_ingestRules_eq, replaceAll_embedPattern_of_not_mem noImage,
    replaceAll_aliasedLinkPattern_of_not_mem single, replaced,
    replaceAll_behind_linkTo named named]

theorem apply_ingestRules_aliased {shown : Text} (inShown : IsShown shown) :
    RuleSet.apply ingestRules (reference "[[".toList target (some shown)) =
      linkTo shown (linkDestination target) := by
  have noImage : '!' ∉ reference "[[".toList target (some shown) := by
    simp [reference, named.noImage, inShown.noImage]
  have found := aliasedLinkPattern_append none [] named.nonempty named.single named.noClosing
    inShown.nonempty inShown.noClosing
  rw [List.append_nil] at found
  have replaced : aliasedLinkPattern.replaceAll aliasedLink
      (reference "[[".toList target (some shown)) = linkTo shown (linkDestination target) :=
    aliasedLinkPattern_proper.replaceAll_of_match found
  have kept := not_doubleBracket_isInfix_linkTo named inShown
  rw [apply_ingestRules_eq, replaceAll_embedPattern_of_not_mem noImage, replaced,
    wikiLinkPattern_opens.replaceAll_of_absent kept, replaceAll_behind_linkTo named inShown]

theorem apply_ingestRules_embed :
    RuleSet.apply ingestRules (reference "![[".toList target none) =
      imageOf [] (linkDestination target) := by
  have found := embedPattern_append none [] named.nonempty named.noClosing
  rw [List.append_nil] at found
  have replaced : embedPattern.replaceAll embed (reference "![[".toList target none) =
      imageOf [] (linkDestination target) :=
    embedPattern_proper.replaceAll_of_match found
  have mark : '[' ∉ ['!'] := by decide
  have behind : '[' ∉ "](".toList ++ linkDestination target ++ [')'] := by
    simp [not_mem_linkDestination named.noOpening]
  have kept : ¬ "[[".toList <:+: imageOf [] (linkDestination target) :=
    not_doubleBracket_isInfix mark behind
  have noImage : '!' ∉ "[](".toList ++ linkDestination target ++ [')'] := by
    simp [not_mem_linkDestination named.noImage]
  have noCallout : ¬ "[!".toList <:+: imageOf [] (linkDestination target) := by
    intro found
    rcases List.infix_cons_iff.mp found with front | inside
    · exact absurd (List.cons_prefix_cons.mp front).1 (by decide)
    · exact noImage (inside.subset (by simp))
  have noEquals : '=' ∉ imageOf [] (linkDestination target) := by
    simp [imageOf, not_mem_linkDestination named.noEquals]
  rw [apply_ingestRules_eq, replaced, aliasedLinkPattern_opens.replaceAll_of_absent kept,
    wikiLinkPattern_opens.replaceAll_of_absent kept,
    replaceAll_behind_references noCallout noEquals]

end Ingested

/-! ## Back to the syntax of Obsidian -/

section Emitted

variable {target : Text} (named : IsShown target) (internal : looksInternal target)
include named

section Link

variable {shown : Text} (inShown : IsShown shown)
include inShown

/-- A link whose destination is not cut off is read back as the reference to its note, and to no
other. -/
theorem linkBack_eq_reference_iff (internal : looksInternal target) (href : Text) :
    linkBack ⟨linkTo shown href, [shown, href]⟩ =
        reference "[[".toList target (if shown == target then none else some shown) ↔
      noteTarget href = target := by
  cases reads : looksInternal (noteTarget href) with
  | true =>
    rw [linkBack_of_internal inShown.unescaped reads, inShown.trimmed]
    exact reference_eq_iff inShown.single named.single
  | false =>
    have differs : noteTarget href ≠ target := by
      rintro same
      rw [same, internal] at reads
      exact Bool.noConfusion reads
    refine iff_of_false (fun same => ?_) differs
    rw [linkBack_of_external reads] at same
    exact reference_ne_concat_paren _ _ _ _ same.symm

include internal in
/-- **A link to a note is emitted as the reference it was ingested from iff the name survives.** -/
theorem apply_emitRules_linkTo_iff :
    RuleSet.apply emitRules (linkTo shown (linkDestination target)) =
        reference "[[".toList target (if shown == target then none else some shown) ↔
      Survives target := by
  have flat : '/' ∉ linkTo shown (linkDestination target) := by
    simp [linkTo, inShown.flat, not_mem_linkDestination named.flat]
  have noImage := replaceAll_imagePattern_of_not_mem
    (image_not_mem_linkTo_linkDestination named inShown)
  rw [apply_emitRules_of_flat flat, noImage, survives_iff named.trimmed]
  by_cases closed : ')' ∈ target
  · have cut : ')' ∈ linkDestination target := paren_mem_linkDestination_iff.mpr closed
    obtain ⟨front, ends⟩ :=
      exists_replaceAll_linkTo inShown.nonempty inShown.noClosing inShown.noOpening
        (by simp [not_mem_linkDestination named.noOpening]) cut
    rw [ends]
    exact iff_of_false (reference_ne_concat_paren _ _ _ _).symm fun survives => survives.1 closed
  · have whole : ')' ∉ linkDestination target := paren_mem_linkDestination_iff.not.mpr closed
    have found := linkPattern_append none [] inShown.nonempty inShown.noClosing
      (linkDestination_ne_nil named.nonempty) whole
    rw [List.append_nil] at found
    have replaced : linkPattern.replaceAll linkBack (linkTo shown (linkDestination target)) =
        linkBack ⟨linkTo shown (linkDestination target), [shown, linkDestination target]⟩ :=
      linkPattern_proper.replaceAll_of_match found
    rw [replaced, linkBack_eq_reference_iff named inShown internal]
    exact (and_iff_right closed).symm

end Link

include internal in
/-- **An image of a note is emitted as the embed it was ingested from iff the name survives.** -/
theorem apply_emitRules_imageOf_iff :
    RuleSet.apply emitRules (imageOf [] (linkDestination target)) =
        reference "![[".toList target none ↔
      Survives target := by
  have nonempty := linkDestination_ne_nil named.nonempty
  have flat : '/' ∉ imageOf [] (linkDestination target) := by
    simp [imageOf, not_mem_linkDestination named.flat]
  have noImage : '!' ∉ linkDestination target := by simp [not_mem_linkDestination named.noImage]
  rw [apply_emitRules_of_flat flat, survives_iff named.trimmed, ← paren_mem_linkDestination_iff.not]
  constructor
  · intro same
    rcases replaceAll_imageOf_cases noImage nonempty with kept | ⟨w, written, behind⟩
    · have mark : '[' ∉ ['!'] := by decide
      have noOpening : '[' ∉ linkDestination target := by
        simp [not_mem_linkDestination named.noOpening]
      have passed := Pattern.Opens.replaceAll_append (f := linkBack) (fun _ _ _ => rfl)
        linkPattern_opens mark (linkTo [] (linkDestination target))
      rw [replaceAll_linkTo_unnamed noOpening] at passed
      rw [kept] at same
      exact absurd (same.symm.trans passed)
        (reference_ne_concat_paren _ _ ("![](".toList ++ linkDestination target) none)
    · rw [written] at same
      obtain rfl := eq_of_replaceAll_linkPattern_embed named.noOpening named.noClosing named.single
        same
      split at behind
      · obtain ⟨front, ends⟩ := behind
        exact absurd ends (reference_ne_concat_paren [] target front none)
      next closed => exact ⟨closed, (List.append_cancel_right behind).symm⟩
  · rintro ⟨closed, reads⟩
    rw [replaceAll_imageOf_unnamed nonempty closed, embedBack_unnamed (reads.symm ▸ internal),
      reads]
    exact replaceAll_embed named.nonempty named.noOpening named.noClosing

end Emitted

end Obsidian

open Obsidian

/-- **Which notes keep their references.**  A reference to a note, in any of its forms, comes back
from the neutral form iff the name of the note is read back from its destination. -/
theorem emit_ingest_mention_iff (name : VaultName) (mention : Mention name) :
    RuleSet.apply (Dialect.builtin .obsidian).emit
        (RuleSet.apply (Dialect.builtin .obsidian).ingest mention.written) = mention.written ↔
      Survives name.text := by
  have named := name.isShown
  change RuleSet.apply emitRules (RuleSet.apply ingestRules mention.written) = mention.written ↔ _
  cases mention with
  | link =>
    have round := apply_emitRules_linkTo_iff named name.internal named
    rw [beq_self_eq_true, if_pos rfl] at round
    rw [Mention.written, apply_ingestRules_link named]
    exact round
  | aliased shown differs =>
    have inShown := VaultAlias.isShown shown
    have round := apply_emitRules_linkTo_iff named name.internal inShown
    rw [beq_eq_false_iff_ne.mpr differs, if_neg Bool.false_ne_true] at round
    rw [Mention.written, apply_ingestRules_aliased named inShown]
    exact round
  | embed =>
    rw [Mention.written, apply_ingestRules_embed named]
    exact apply_emitRules_imageOf_iff named name.internal

/-- The parenthesis in the name ends the destination too early. -/
theorem emit_ingest_loses_parenthesis :
    looksInternal "Plan (draft)".toList ∧
      RuleSet.apply (Dialect.builtin .obsidian).emit
          (RuleSet.apply (Dialect.builtin .obsidian).ingest "[[Plan (draft)]]".toList) =
        "[[<Plan (draft|Plan (draft)]]>)".toList ∧
      RuleSet.apply (Dialect.builtin .obsidian).emit
          (RuleSet.apply (Dialect.builtin .obsidian).ingest "[[Plan (draft)]]".toList) ≠
        "[[Plan (draft)]]".toList := by
  decide

end MarkdownDialects
