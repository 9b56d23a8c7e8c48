import MarkdownDialects.Proofs.Dialect.Obsidian.RoundTrip

/-!
# Texts that are one link

A link or an image is replaced as a whole by the rules that emit Obsidian, whatever follows it
without opening another one (`Obsidian.replaceAll_linkTo`, `Obsidian.replaceAll_imageOf`).  A text
without the closing tag of a span holds no spoilers, so no other rule touches it.
-/

namespace MarkdownDialects

namespace Marker

/-- A text without the closing mark holds no text between marks. -/
theorem enclosed_eq_none {opening closing t : Text} {before : Option Char} (shown : closing ≠ [])
    (absent : ¬ closing <:+: t) : enclosed opening closing before t = none := by
  rw [enclosed_eq_none_iff shown]
  rintro inside rfl found
  exact absent (found.trans (List.suffix_append _ _).isInfix)

/-- A text without the closing tag of a span keeps what it has. -/
theorem replaceAll_spoilerSpan_of_absent {f : Match → Text} {t : Text}
    (absent : ¬ spoilerClose <:+: t) : spoilerSpan.replaceAll f t = t := by
  apply Pattern.replaceAll_of_silent
  intro before s inside
  exact enclosed_eq_none (by decide) fun found => absent (found.trans inside.isInfix)

/-- A text without angle brackets has no tags. -/
theorem replaceAll_spoilerSpan_of_no_bracket {f : Match → Text} {t : Text} (absent : '<' ∉ t) :
    spoilerSpan.replaceAll f t = t :=
  replaceAll_spoilerSpan_of_absent fun found => absent (found.subset List.mem_cons_self)

end Marker

namespace Obsidian

/-- A link with the given destination. -/
def linkTo (shown href : Text) : Text := ['['] ++ shown ++ "](".toList ++ href ++ [')']

/-- An image with the given source. -/
def imageOf (alt href : Text) : Text := "![".toList ++ alt ++ "](".toList ++ href ++ [')']

/-- The rules that emit Obsidian, one after the other. -/
theorem apply_emitRules_eq (t : Text) :
    RuleSet.apply emitRules t =
      Marker.spoilerSpan.replaceAll Marker.unwrapSpoiler
        (linkPattern.replaceAll linkBack (imagePattern.replaceAll embedBack t)) := rfl

section Replaced

variable {shown href : Text} (rest : Text)

/-- A link is replaced as a whole. -/
theorem replaceAll_linkTo (named : shown ≠ []) (ended : ']' ∉ shown) (nonempty : href ≠ [])
    (closed : ')' ∉ href) :
    linkPattern.replaceAll linkBack (linkTo shown href ++ rest) =
      linkBack ⟨linkTo shown href, [shown, href]⟩ ++ linkPattern.replaceAll linkBack rest :=
  Pattern.replaceAll_append_of_match (fun _ _ _ => rfl) (List.cons_ne_nil _ _)
    (linkPattern_append none rest named ended nonempty closed)

/-- An image is replaced as a whole, also without alternative text. -/
theorem replaceAll_imageOf (ended : ']' ∉ shown) (nonempty : href ≠ []) (closed : ')' ∉ href) :
    imagePattern.replaceAll embedBack (imageOf shown href ++ rest) =
      embedBack ⟨imageOf shown href, [shown, href]⟩ ++ imagePattern.replaceAll embedBack rest :=
  Pattern.replaceAll_append_of_match (fun _ _ _ => rfl) (List.cons_ne_nil _ _)
    (imagePattern_append none rest ended nonempty closed)

end Replaced

theorem replaceAll_linkPattern_of_not_mem {t : Text} (absent : '[' ∉ t) :
    linkPattern.replaceAll linkBack t = t :=
  linkPattern_opens.replaceAll_of_absent fun found => absent (found.subset List.mem_cons_self)

theorem replaceAll_imagePattern_of_not_mem {t : Text} (absent : '!' ∉ t) :
    imagePattern.replaceAll embedBack t = t :=
  imagePattern_opens.replaceAll_of_absent fun found => absent (found.subset List.mem_cons_self)

/-- A reference in double brackets is no link. -/
theorem replaceAll_embed {inside : Text} (nonempty : inside ≠ []) (opened : '[' ∉ inside)
    (closed : ']' ∉ inside) :
    linkPattern.replaceAll linkBack ("![[".toList ++ inside ++ "]]".toList) =
      "![[".toList ++ inside ++ "]]".toList := by
  have unanchored : linkPattern.Unanchored := fun _ _ _ => rfl
  have opens : Pattern.Opens linkPattern ['['] := linkPattern_opens
  have ended : ']' ∉ '[' :: inside := by simp [closed]
  have absent : '[' ∉ inside ++ "]]".toList := by simp [opened]
  -- What the first bracket opens is `[inside`, what the second opens is `inside`: both close twice.
  have outer := linkPattern_eq_none none [] (List.cons_ne_nil _ _) ended
  have inner := linkPattern_eq_none none [] nonempty closed
  have passed := replaceAll_doubleBracket (f := linkBack) unanchored opens absent []
    (by simpa using outer) (by simpa using inner)
  rw [replaceAll_linkPattern_of_not_mem List.not_mem_nil] at passed
  have mark : '[' ∉ ['!'] := by decide
  have whole := opens.replaceAll_append (f := linkBack) unanchored mark
    ("[[".toList ++ (inside ++ "]]".toList) ++ [])
  rw [passed] at whole
  simpa using whole

/-- Without text to show there is no link. -/
theorem replaceAll_linkTo_unnamed {href : Text} (noOpening : '[' ∉ href) :
    linkPattern.replaceAll linkBack (linkTo [] href) = linkTo [] href := by
  have silent : linkPattern none ('[' :: (']' :: '(' :: href ++ [')'])) = none := rfl
  have others : '[' ∉ ']' :: '(' :: href ++ [')'] := by simp [noOpening]
  exact (Pattern.replaceAll_cons_of_none (fun _ _ _ => rfl) silent).trans
    (congrArg ('[' :: ·) (replaceAll_linkPattern_of_not_mem others))

/-- A link to somewhere else is kept. -/
theorem linkBack_of_external {shown href : Text}
    (external : looksInternal (noteTarget href) = false) (whole : Text) :
    linkBack ⟨whole, [shown, href]⟩ = whole := by
  simp only [linkBack, Match.group, List.getD_cons_zero, List.getD_cons_succ, external,
    Bool.not_false, Bool.or_true, if_true]

/-- An image from somewhere else is kept. -/
theorem embedBack_of_external {alt href : Text} (external : looksInternal (noteTarget href) = false)
    (whole : Text) : embedBack ⟨whole, [alt, href]⟩ = whole := by
  simp only [embedBack, Match.group, List.getD_cons_zero, List.getD_cons_succ, external,
    Bool.not_false, if_true]

/-- A link to a note becomes a reference to it. -/
theorem linkBack_of_internal {shown href : Text} (unescaped : '\\' ∉ shown)
    (internal : looksInternal (noteTarget href)) (whole : Text) :
    linkBack ⟨whole, [shown, href]⟩ =
      reference "[[".toList (noteTarget href)
        (if Text.trim shown == noteTarget href then none else some (Text.trim shown)) := by
  have last : (shown.getLast? == some '\\') = false := by
    rw [beq_eq_false_iff_ne]
    exact fun last => unescaped (List.mem_of_getLast? last)
  simp only [linkBack, Match.group, List.getD_cons_zero, List.getD_cons_succ, internal, last]
  rfl

/-- An image of a note becomes an embed of it. -/
theorem embedBack_of_internal {alt href : Text} (internal : looksInternal (noteTarget href))
    (whole : Text) :
    embedBack ⟨whole, [alt, href]⟩ =
      reference "![[".toList (noteTarget href)
        (if (Text.trim alt).isEmpty || Text.trim alt == noteTarget href then none
          else some (Text.trim alt)) := by
  simp only [embedBack, Match.group, List.getD_cons_zero, List.getD_cons_succ, internal]
  rfl

/-- Text that is no part of another link, image or tag where it stands in a link. -/
structure IsInert (t : Text) : Prop where
  noImage : '!' ∉ t
  noOpening : '[' ∉ t
  noClosing : ']' ∉ t
  noTag : '<' ∉ t

theorem IsInert.trim {t : Text} (inert : IsInert t) : IsInert (Text.trim t) :=
  have part : Text.trim t ⊆ t := (Text.trimBy_isInfix t).subset
  ⟨fun member => inert.noImage (part member), fun member => inert.noOpening (part member),
    fun member => inert.noClosing (part member), fun member => inert.noTag (part member)⟩

theorem isInert_nil : IsInert [] :=
  ⟨List.not_mem_nil, List.not_mem_nil, List.not_mem_nil, List.not_mem_nil⟩

section Emitted

variable {shown href : Text} (inertShown : IsInert shown) (inert : IsInert href)
  (nonempty : href ≠ []) (closed : ')' ∉ href)
include inertShown inert nonempty closed

omit nonempty closed in
theorem image_not_mem_linkTo : '!' ∉ linkTo shown href := by
  simp [linkTo, inertShown.noImage, inert.noImage]

omit nonempty closed in
theorem tag_not_mem_linkTo : '<' ∉ linkTo shown href := by
  simp [linkTo, inertShown.noTag, inert.noTag]

/-- The link rule keeps links to somewhere else. -/
theorem replaceAll_linkTo_of_external (external : looksInternal (noteTarget href) = false) :
    linkPattern.replaceAll linkBack (linkTo shown href) = linkTo shown href := by
  by_cases unnamed : shown = []
  · rw [unnamed, replaceAll_linkTo_unnamed inert.noOpening]
  · have replaced := replaceAll_linkTo [] unnamed inertShown.noClosing nonempty closed
    rwa [replaceAll_linkPattern_of_not_mem List.not_mem_nil, linkBack_of_external external,
      List.append_nil] at replaced

theorem apply_emitRules_linkTo_of_external (external : looksInternal (noteTarget href) = false) :
    RuleSet.apply emitRules (linkTo shown href) = linkTo shown href := by
  rw [apply_emitRules_eq,
    replaceAll_imagePattern_of_not_mem (image_not_mem_linkTo inertShown inert),
    replaceAll_linkTo_of_external inertShown inert nonempty closed external,
    Marker.replaceAll_spoilerSpan_of_no_bracket (tag_not_mem_linkTo inertShown inert)]

omit inertShown nonempty closed in
theorem apply_emitRules_linkTo_unnamed :
    RuleSet.apply emitRules (linkTo [] href) = linkTo [] href := by
  rw [apply_emitRules_eq,
    replaceAll_imagePattern_of_not_mem (image_not_mem_linkTo isInert_nil inert),
    replaceAll_linkTo_unnamed inert.noOpening,
    Marker.replaceAll_spoilerSpan_of_no_bracket (tag_not_mem_linkTo isInert_nil inert)]

/-- An image from somewhere else is kept by the image rule, and by the link rule behind its mark. -/
theorem apply_emitRules_imageOf_of_external (external : looksInternal (noteTarget href) = false) :
    RuleSet.apply emitRules (imageOf shown href) = imageOf shown href := by
  have image : imagePattern.replaceAll embedBack (imageOf shown href) = imageOf shown href := by
    have replaced := replaceAll_imageOf [] inertShown.noClosing nonempty closed
    rwa [replaceAll_imagePattern_of_not_mem List.not_mem_nil, embedBack_of_external external,
      List.append_nil] at replaced
  have link : linkPattern.replaceAll linkBack (imageOf shown href) = imageOf shown href := by
    have mark : '[' ∉ ['!'] := by simp
    have passed := Pattern.Opens.replaceAll_append (f := linkBack) (fun _ _ _ => rfl)
      linkPattern_opens mark (linkTo shown href)
    rwa [replaceAll_linkTo_of_external inertShown inert nonempty closed external] at passed
  have noTag : '<' ∉ imageOf shown href := by
    simp [imageOf, inertShown.noTag, inert.noTag]
  rw [apply_emitRules_eq, image, link, Marker.replaceAll_spoilerSpan_of_no_bracket noTag]

/-- A link to a note becomes a reference that shows the text of the link. -/
theorem apply_emitRules_linkTo_of_internal (named : shown ≠ []) (unescaped : '\\' ∉ shown)
    (name : noteTarget href = href) (internal : looksInternal href)
    (differs : Text.trim shown ≠ href) :
    RuleSet.apply emitRules (linkTo shown href) =
      reference "[[".toList href (some (Text.trim shown)) := by
  have link : linkPattern.replaceAll linkBack (linkTo shown href) =
      reference "[[".toList href (some (Text.trim shown)) := by
    have replaced := replaceAll_linkTo [] named inertShown.noClosing nonempty closed
    rwa [replaceAll_linkPattern_of_not_mem List.not_mem_nil,
      linkBack_of_internal unescaped (name.symm ▸ internal), name,
      beq_eq_false_iff_ne.mpr differs, if_neg Bool.false_ne_true, List.append_nil,
      List.append_nil] at replaced
  have noTag : '<' ∉ reference "[[".toList href (some (Text.trim shown)) := by
    simp [reference, inert.noTag, inertShown.trim.noTag]
  rw [apply_emitRules_eq,
    replaceAll_imagePattern_of_not_mem (image_not_mem_linkTo inertShown inert), link,
    Marker.replaceAll_spoilerSpan_of_no_bracket noTag]

/-- An image of a note becomes an embed that shows the alternative text, if there is any. -/
theorem apply_emitRules_imageOf_of_internal (name : noteTarget href = href)
    (internal : looksInternal href) (differs : Text.trim shown ≠ href) :
    RuleSet.apply emitRules (imageOf shown href) =
      reference "![[".toList href
        (if (Text.trim shown).isEmpty then none else some (Text.trim shown)) := by
  have inertAlt : IsInert (Text.trim shown) := inertShown.trim
  generalize alt : Text.trim shown = text at differs inertAlt ⊢
  have image : imagePattern.replaceAll embedBack (imageOf shown href) =
      reference "![[".toList href (if text.isEmpty then none else some text) := by
    have replaced := replaceAll_imageOf [] inertShown.noClosing nonempty closed
    rwa [replaceAll_imagePattern_of_not_mem List.not_mem_nil,
      embedBack_of_internal (name.symm ▸ internal), name, alt, beq_eq_false_iff_ne.mpr differs,
      Bool.or_false, List.append_nil, List.append_nil] at replaced
  -- With alternative text or without, no link and no tag is in the brackets.
  obtain ⟨inside, embed, nothing, opened, ended, noTag⟩ : ∃ inside,
      reference "![[".toList href (if text.isEmpty then none else some text) =
        "![[".toList ++ inside ++ "]]".toList ∧ inside ≠ [] ∧ '[' ∉ inside ∧ ']' ∉ inside ∧
          '<' ∉ inside := by
    split
    · exact ⟨href, rfl, nonempty, inert.noOpening, inert.noClosing, inert.noTag⟩
    · refine ⟨href ++ ['|'] ++ text, by simp [reference], by simp, ?_, ?_, ?_⟩
      · simp [inert.noOpening, inertAlt.noOpening]
      · simp [inert.noClosing, inertAlt.noClosing]
      · simp [inert.noTag, inertAlt.noTag]
  rw [apply_emitRules_eq, image, embed, replaceAll_embed nothing opened ended,
    Marker.replaceAll_spoilerSpan_of_no_bracket (by simp [noTag])]

end Emitted

/-- A destination without brackets and percent signs stands for itself. -/
theorem noteTarget_eq_self {href : Text} (trimmed : Text.trim href = href) (noBracket : '<' ∉ href)
    (noPercent : '%' ∉ href) : noteTarget href = href := by
  rw [noteTarget, trimmed, unbracket_of_not_mem noBracket, Percent.decode_of_not_mem noPercent]

end Obsidian

end MarkdownDialects
