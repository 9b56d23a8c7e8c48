import MarkdownDialects.Proofs.Dialect.Obsidian.SoleLink

/-!
# What is written for links and images

A link or an image that the rules for Obsidian rewrite becomes a reference to a note, and a
reference tells which note it is to (`Obsidian.reference_eq_iff`).  A parenthesis in the destination
ends the link too early, and what it cut off stays behind.  The rule for links comes after the one
for images, but leaves an embed behind only where there was one
(`Obsidian.eq_of_replaceAll_linkPattern_embed`).
-/

namespace MarkdownDialects

namespace Obsidian

/-- What looks like a note has no slash, also not at its ends. -/
theorem slash_not_mem_of_looksInternal {t : Text} (internal : looksInternal t) : '/' ∉ t := by
  simp only [looksInternal, Bool.and_eq_true, Bool.not_eq_true'] at internal
  have flat : '/' ∉ Text.trim t := by simpa using internal.1.2
  exact fun member => flat (Text.mem_trimBy_of_mem (by decide) member)

/-- The text that a reference shows does not hide which note it is to. -/
theorem reference_eq_iff {target other shown : Text} (inShown : '|' ∉ shown)
    (inTarget : '|' ∉ target) :
    reference "[[".toList other (if shown == other then none else some shown) =
        reference "[[".toList target (if shown == target then none else some shown) ↔
      other = target := by
  refine ⟨fun same => ?_, fun same => same ▸ rfl⟩
  rcases eq_or_ne shown other with rfl | otherwise
  · rcases eq_or_ne shown target with rfl | differs
    · rfl
    · have whole : shown ++ "]]".toList = target ++ '|' :: (shown ++ "]]".toList) := by
        simpa [reference, differs] using same
      have pipe : '|' ∈ shown ++ "]]".toList := whole ▸ by simp
      exact absurd pipe (by simp [inShown])
  · rcases eq_or_ne shown target with rfl | differs
    · have whole : other ++ '|' :: (shown ++ "]]".toList) = shown ++ "]]".toList := by
        simpa [reference, otherwise] using same
      have pipe : '|' ∈ shown ++ "]]".toList := whole ▸ by simp
      exact absurd pipe (by simp [inTarget])
    · simpa [reference, otherwise, differs] using same

/-- A reference ends with a bracket, so nothing that ends with a parenthesis is one. -/
theorem reference_ne_concat_paren (opening target front : Text) (shown : Option Text) :
    reference opening target shown ≠ front ++ [')'] := by
  have last : (reference opening target shown).getLast? = some ']' := by
    cases shown <;> exact List.getLast?_append_of_ne_nil _ (List.cons_ne_nil _ _)
  intro same
  rw [same, List.getLast?_concat] at last
  exact absurd last (by decide)

/-- What can become of a link: it is kept, or it is a reference, with an alias or without one. -/
theorem linkBack_cases (whole text href : Text) :
    linkBack ⟨whole, [text, href]⟩ = whole ∨
      linkBack ⟨whole, [text, href]⟩ = reference "[[".toList (Text.trim text) none ∨
        ∃ target, linkBack ⟨whole, [text, href]⟩ =
          reference "[[".toList target (some (Text.trim text)) := by
  simp only [linkBack, Match.group, List.getD_cons_zero, List.getD_cons_succ]
  split
  · exact .inl rfl
  · split
    next same => exact .inr (.inl (beq_iff_eq.mp same ▸ rfl))
    next => exact .inr (.inr ⟨_, rfl⟩)

theorem exists_linkTo {before : Option Char} {t : Text} {m : Match}
    (found : linkPattern before t = some m) :
    ∃ text href, m = ⟨linkTo text href, [text, href]⟩ ∧ text ≠ [] ∧ ']' ∉ text ∧
      linkTo text href <+: t := by
  obtain ⟨text, href, rfl, named, closed, covers⟩ := linkPattern_eq_some found
  exact ⟨text, href, rfl, named, closed, covers⟩

/-- What is written for a link begins with a bracket. -/
theorem opening_mem_linkBack {before : Option Char} {t : Text} {m : Match}
    (found : linkPattern before t = some m) : '[' ∈ linkBack m := by
  obtain ⟨text, href, rfl, _⟩ := exists_linkTo found
  rcases linkBack_cases (linkTo text href) text href with kept | plain | ⟨target, aliased⟩
  · rw [kept]
    simp [linkTo]
  · rw [plain]
    simp [reference]
  · rw [aliased]
    simp [reference]

/-- A reference to what looks like a note has no slash unless it shows one. -/
theorem slash_not_mem_reference {opening target shown : Text} (opened : '/' ∉ opening)
    (internal : looksInternal target) (flat : '/' ∉ shown) (bare : Bool) :
    '/' ∉ reference opening target (if bare then none else some (Text.trim shown)) := by
  have inTarget : '/' ∉ target := slash_not_mem_of_looksInternal internal
  have inShown : '/' ∉ Text.trim shown := fun member =>
    flat ((Text.trimBy_isInfix shown).subset member)
  split <;> simp [reference, opened, inTarget, inShown]

/-- What is written for a link has no slash if there is none in the link. -/
theorem slash_not_mem_linkBack {m : Match} (whole : '/' ∉ m.whole) (shown : '/' ∉ m.group 1) :
    '/' ∉ linkBack m := by
  unfold linkBack
  dsimp only
  split
  · exact whole
  next internal => exact slash_not_mem_reference (by decide) (by simp_all) shown _

/-- What is written for an image has no slash if there is none in the image. -/
theorem slash_not_mem_embedBack {m : Match} (whole : '/' ∉ m.whole) (shown : '/' ∉ m.group 1) :
    '/' ∉ embedBack m := by
  unfold embedBack
  dsimp only
  split
  · exact whole
  next internal => exact slash_not_mem_reference (by decide) (by simp_all) shown _

/-- Without slashes there are no closing tags. -/
theorem replaceAll_spoilerSpan_of_flat {t : Text} (flat : '/' ∉ t) :
    Marker.spoilerSpan.replaceAll Marker.unwrapSpoiler t = t :=
  Marker.replaceAll_spoilerSpan_of_absent fun found => flat (found.subset (by decide))

/-- The rules that emit Obsidian, for a text without slashes. -/
theorem apply_emitRules_of_flat {t : Text} (flat : '/' ∉ t) :
    RuleSet.apply emitRules t =
      linkPattern.replaceAll linkBack (imagePattern.replaceAll embedBack t) := by
  have images : '/' ∉ imagePattern.replaceAll embedBack t := by
    refine Pattern.not_mem_replaceAll imagePattern_proper (fun before s m found whole => ?_) flat
    obtain ⟨alt, href, rfl, _⟩ := imagePattern_eq_some found
    exact slash_not_mem_embedBack whole fun member => whole (by simp_all [Match.group])
  have links : '/' ∉ linkPattern.replaceAll linkBack (imagePattern.replaceAll embedBack t) := by
    refine Pattern.not_mem_replaceAll linkPattern_proper (fun before s m found whole => ?_) images
    obtain ⟨text, href, rfl, _⟩ := exists_linkTo found
    exact slash_not_mem_linkBack whole fun member => whole (by simp_all [Match.group, linkTo])
  rw [apply_emitRules_eq, replaceAll_spoilerSpan_of_flat links]

/-! ## What the link rule leaves of an embed -/

/-- What the link rule can have done at a bracket if brackets close twice in the end: nothing, or it
wrote a reference without an alias. -/
theorem replaceAll_linkPattern_cons {v u : Text} (single : '|' ∉ u) (ended : ']' ∉ u)
    (same : linkPattern.replaceAll linkBack ('[' :: v) = '[' :: (u ++ "]]".toList)) :
    linkPattern.replaceAll linkBack v = u ++ "]]".toList ∨
      ∃ text, text ≠ [] ∧ text <+: v ∧ '[' :: Text.trim text <+: u ++ "]]".toList := by
  cases found : linkPattern none ('[' :: v) with
  | none =>
    rw [Pattern.replaceAll_cons_of_none (fun _ _ _ => rfl) found] at same
    exact .inl (List.cons.inj same).2
  | some m =>
    obtain ⟨text, href, rfl, named, closed, rest, covers⟩ := exists_linkTo found
    have begins : text <+: v := by
      have behind : text ++ ("](".toList ++ href ++ [')'] ++ rest) = v := by
        simpa [linkTo] using covers
      exact ⟨_, behind⟩
    have nonempty : linkTo text href ≠ [] := List.cons_ne_nil _ _
    rw [← covers] at found same
    rw [Pattern.replaceAll_append_of_match (fun _ _ _ => rfl) nonempty found] at same
    rcases linkBack_cases (linkTo text href) text href with kept | plain | ⟨target, aliased⟩
    · -- Behind the text stands a parenthesis, and behind an embed a second bracket.
      rw [kept] at same
      have inside : text ++ ("](".toList ++
          (href ++ ([')'] ++ linkPattern.replaceAll linkBack rest))) = u ++ "]]".toList := by
        simpa [linkTo] using same
      have behind := congrArg (List.dropWhile inBrackets) inside
      rw [List.dropWhile_append_of_pos (inBrackets_of_not_mem closed),
        List.dropWhile_append_of_pos (inBrackets_of_not_mem ended)] at behind
      exact absurd (List.cons.inj (List.cons.inj behind).2).1 (by decide)
    · have inside : '[' :: Text.trim text ++ ("]]".toList ++ linkPattern.replaceAll linkBack rest) =
          u ++ "]]".toList := by
        rw [plain] at same
        simpa [reference] using same
      exact .inr ⟨text, named, begins, _, inside⟩
    · have pipe : '|' ∈ '[' :: (u ++ "]]".toList) := by
        rw [← same, aliased]
        simp [reference]
      exact absurd pipe (by simp [single])

/-- The link rule leaves an embed behind only where there was one. -/
theorem eq_of_replaceAll_linkPattern_embed {w t : Text} (opened : '[' ∉ t) (ended : ']' ∉ t)
    (single : '|' ∉ t)
    (same : linkPattern.replaceAll linkBack ("![[".toList ++ w) =
      "![[".toList ++ (t ++ "]]".toList)) :
    w = t ++ "]]".toList := by
  have unanchored : linkPattern.Unanchored := fun _ _ _ => rfl
  have opens : Pattern.Opens linkPattern ['['] := linkPattern_opens
  have mark : '[' ∉ ['!'] := by decide
  have absent : '[' ∉ t ++ "]]".toList := by simp [opened]
  have behind : linkPattern.replaceAll linkBack ('[' :: '[' :: w) =
      '[' :: (('[' :: t) ++ "]]".toList) := by
    have passed := opens.replaceAll_append (f := linkBack) unanchored mark ('[' :: '[' :: w)
    have kept := passed.symm.trans same
    exact (List.cons.inj kept).2
  have outer : linkPattern.replaceAll linkBack ('[' :: w) = '[' :: (t ++ "]]".toList) := by
    rcases replaceAll_linkPattern_cons (by simp [single]) (by simp [ended]) behind with
      kept | ⟨text, named, begins, written⟩
    · exact kept
    · obtain ⟨c, others, rfl⟩ := List.exists_cons_of_ne_nil named
      have first : c = '[' := (List.cons_prefix_cons.mp begins).1
      have inside : '[' ∈ Text.trim (c :: others) :=
        Text.mem_trimBy_of_mem (by decide) (first ▸ List.mem_cons_self)
      have front : Text.trim (c :: others) <+: t ++ "]]".toList :=
        (List.cons_prefix_cons.mp written).2
      exact absurd (front.subset inside) absent
  have inner : linkPattern.replaceAll linkBack w = t ++ "]]".toList := by
    rcases replaceAll_linkPattern_cons single ended outer with kept | ⟨text, _, _, written⟩
    · exact kept
    · exact absurd (written.subset List.mem_cons_self) absent
  rw [← inner]
  exact (Pattern.replaceAll_eq_self_of_not_mem linkPattern_proper
    (fun _ _ _ => opening_mem_linkBack) (inner ▸ absent)).symm

/-! ## Destinations that are cut off -/

/-- A closing parenthesis in the destination ends it, and what stands behind it stays behind the
link. -/
theorem exists_replaceAll_linkTo {shown href : Text} (nonempty : shown ≠ []) (ended : ']' ∉ shown)
    (opened : '[' ∉ shown) (noOpening : '[' ∉ href) (cut : ')' ∈ href) :
    ∃ front, linkPattern.replaceAll linkBack (linkTo shown href) = front ++ [')'] := by
  obtain ⟨front, rest, rfl, closed⟩ := List.eq_append_cons_of_mem cut
  have absent : '[' ∉ rest ++ [')'] := by simp_all
  rcases eq_or_ne front [] with rfl | begun
  · have silent : linkPattern none ('[' :: (shown ++ "]()".toList ++ (rest ++ [')']))) = none :=
      linkPattern_nowhere none (rest ++ [')']) nonempty ended
    have others : '[' ∉ shown ++ "]()".toList ++ (rest ++ [')']) := by
      simp [opened, absent]
    have whole : linkTo shown ([] ++ ')' :: rest) =
        '[' :: (shown ++ "]()".toList ++ (rest ++ [')'])) := by
      simp [linkTo]
    rw [whole, Pattern.replaceAll_cons_of_none (fun _ _ _ => rfl) silent,
      replaceAll_linkPattern_of_not_mem others, ← whole]
    exact ⟨_, rfl⟩
  · have whole : linkTo shown (front ++ ')' :: rest) = linkTo shown front ++ (rest ++ [')']) := by
      simp [linkTo]
    rw [whole, replaceAll_linkTo (rest ++ [')']) nonempty ended begun closed,
      replaceAll_linkPattern_of_not_mem absent]
    exact ⟨_, (List.append_assoc _ _ _).symm⟩

/-- An image of a note without alternative text becomes an embed without an alias. -/
theorem embedBack_unnamed {href : Text} (reads : looksInternal (noteTarget href)) (whole : Text) :
    embedBack ⟨whole, [[], href]⟩ = reference "![[".toList (noteTarget href) none :=
  embedBack_of_internal reads whole

/-- An image without alternative text is one match if its destination is not cut off. -/
theorem replaceAll_imageOf_unnamed {href : Text} (nonempty : href ≠ []) (closed : ')' ∉ href) :
    imagePattern.replaceAll embedBack (imageOf [] href) =
      embedBack ⟨imageOf [] href, [[], href]⟩ := by
  have found := imagePattern_append none [] (List.not_mem_nil (a := ']')) nonempty closed
  rw [List.append_nil] at found
  exact imagePattern_proper.replaceAll_of_match found

/-- What the image rule makes of an image without alternative text, if it does not keep it: an
embed, and behind it what a parenthesis in the destination cut off. -/
theorem replaceAll_imageOf_cases {href : Text} (noImage : '!' ∉ href) (nonempty : href ≠ []) :
    imagePattern.replaceAll embedBack (imageOf [] href) = imageOf [] href ∨
      ∃ w, imagePattern.replaceAll embedBack (imageOf [] href) = "![[".toList ++ w ∧
        if ')' ∈ href then ∃ front, w = front ++ [')'] else w = noteTarget href ++ "]]".toList := by
  split
  next cut =>
    obtain ⟨front, rest, rfl, closed⟩ := List.eq_append_cons_of_mem cut
    have absent : '!' ∉ rest ++ [')'] := by simp_all
    rcases eq_or_ne front [] with rfl | nonempty
    · have silent : imagePattern none ('!' :: ("[]()".toList ++ (rest ++ [')']))) = none := rfl
      have others : '!' ∉ "[]()".toList ++ (rest ++ [')']) := by simp [absent]
      have whole : imageOf [] ([] ++ ')' :: rest) = '!' :: ("[]()".toList ++ (rest ++ [')'])) := rfl
      rw [whole, Pattern.replaceAll_cons_of_none (fun _ _ _ => rfl) silent,
        replaceAll_imagePattern_of_not_mem others]
      exact .inl rfl
    · have whole : imageOf [] (front ++ ')' :: rest) = imageOf [] front ++ (rest ++ [')']) := by
        simp [imageOf]
      rw [whole, replaceAll_imageOf (rest ++ [')']) List.not_mem_nil nonempty closed,
        replaceAll_imagePattern_of_not_mem absent]
      cases reads : looksInternal (noteTarget front) with
      | true =>
        rw [embedBack_unnamed reads]
        refine .inr ⟨noteTarget front ++ "]]".toList ++ rest ++ [')'], ?_, _, rfl⟩
        simp [reference]
      | false => exact .inl (by rw [embedBack_of_external reads])
  next whole =>
    rw [replaceAll_imageOf_unnamed nonempty whole]
    cases reads : looksInternal (noteTarget href) with
    | true => exact .inr ⟨_, embedBack_unnamed reads _, rfl⟩
    | false => exact .inl (embedBack_of_external reads _)

end Obsidian

end MarkdownDialects
