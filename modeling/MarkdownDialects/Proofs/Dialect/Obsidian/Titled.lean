import MarkdownDialects.Proofs.Dialect.Obsidian.SoleLink
import MarkdownDialects.Proofs.Text.Part
import MarkdownDialects.Serialize.Writer

/-!
# Links with titles

A link or an image that leads out of the vault is left as it is, as long as it has no title.  A
title stands behind the destination, between the same parentheses, and the two are read as one.  So
a scheme or a slash in the destination still shows where the link leads, but a file extension is no
longer at the end, and the link is taken for one to a note (`emit_external`).
-/

namespace MarkdownDialects

namespace Obsidian

open Html (Attribute)

/-- The attributes of something that leads elsewhere, with a title if it has one. -/
def leading (name : String) (href : Text) (title : Option Text) : List Attribute :=
  ⟨name, href⟩ :: (title.map (Attribute.mk "title")).toList

/-- A link as it is written, with a title if it has one. -/
def writtenLink (shown href : Text) (title : Option Text) : Text :=
  Serialize.link ⟨"a", leading "href" href title⟩ shown

/-- An image as it is written, with a title if it has one. -/
def writtenImage (alt src : Text) (title : Option Text) : Text :=
  Serialize.image ⟨"img", ⟨"alt", alt⟩ :: leading "src" src title⟩

/-- A destination with a title behind it. -/
def titled (href title : Text) : Text := href ++ " \"".toList ++ title ++ ['"']

/-- Text on one line without the marks of links and images, and of what is encoded, escaped or
quoted. -/
structure IsPlainPart (t : Text) : Prop extends IsInert t where
  noStart : '(' ∉ t
  noEnd : ')' ∉ t
  unencoded : '%' ∉ t
  unescaped : '\\' ∉ t
  unquoted : '"' ∉ t
  oneLine : '\n' ∉ t

theorem isPlainPart_iff {t : Text} : IsPlainPart t ↔ Lacks "![]<()%\\\"\n".toList t := by
  constructor
  · rintro ⟨⟨image, opening, closing, tag⟩, start, ended, encoded, escaped, quoted, line⟩
    simp [Lacks, *]
  · intro lacks
    simp [Lacks] at lacks
    obtain ⟨image, opening, closing, tag, start, ended, encoded, escaped, quoted, line⟩ := lacks
    exact ⟨⟨image, opening, closing, tag⟩, start, ended, encoded, escaped, quoted, line⟩

instance : DecidablePred IsPlainPart := fun _ => decidable_of_iff _ isPlainPart_iff.symm

section Written

variable {shown href title : Text}

theorem writtenLink_none (plain : IsPlainPart href) :
    writtenLink shown href none = linkTo shown href := by
  have written : writtenLink shown href none = '[' :: shown ++ "](".toList ++
      Text.replaceChar ')' ['\\', ')'] (Text.replaceChar '(' ['\\', '('] href) ++ [] ++ [')'] := rfl
  rw [written, Text.replaceChar_of_not_mem plain.noStart, Text.replaceChar_of_not_mem plain.noEnd,
    List.append_nil]
  rfl

theorem writtenLink_some (plain : IsPlainPart href) (unquoted : '"' ∉ title) :
    writtenLink shown href (some title) = linkTo shown (titled href title) := by
  have written : writtenLink shown href (some title) = '[' :: shown ++ "](".toList ++
      Text.replaceChar ')' ['\\', ')'] (Text.replaceChar '(' ['\\', '('] href) ++
        (" \"".toList ++ Text.replaceChar '"' ['\\', '"'] title ++ ['"']) ++ [')'] := rfl
  rw [written, Text.replaceChar_of_not_mem plain.noStart, Text.replaceChar_of_not_mem plain.noEnd,
    Text.replaceChar_of_not_mem unquoted]
  simp only [linkTo, titled, List.append_assoc]
  rfl

theorem writtenImage_none (oneLine : '\n' ∉ shown) :
    writtenImage shown href none = imageOf shown href := by
  have written : writtenImage shown href none =
      "![".toList ++ Text.replaceChar '\n' [' '] shown ++ "](".toList ++ href ++ [] ++ [')'] := rfl
  rw [written, Text.replaceChar_of_not_mem oneLine, List.append_nil]
  rfl

theorem writtenImage_some (oneLine : '\n' ∉ shown) (unquoted : '"' ∉ title) :
    writtenImage shown href (some title) = imageOf shown (titled href title) := by
  have written : writtenImage shown href (some title) =
      "![".toList ++ Text.replaceChar '\n' [' '] shown ++ "](".toList ++ href ++
        (" \"".toList ++ Text.replaceChar '"' ['\\', '"'] title ++ ['"']) ++ [')'] := rfl
  rw [written, Text.replaceChar_of_not_mem oneLine, Text.replaceChar_of_not_mem unquoted]
  simp only [imageOf, titled, List.append_assoc]

end Written

/-! ## What a destination with a title looks like -/

section Destination

variable {href title : Text} (solid : ∀ c ∈ href, Text.isBlank c = false)
include solid

theorem trim_solid : Text.trim href = href :=
  Text.trimBy_eq_self_iff.mpr
    ⟨Text.trimStartBy_eq_self_iff.mpr fun c first => solid c (List.mem_of_mem_head? first),
      Text.trimEndBy_eq_self_iff.mpr fun c last => solid c (List.mem_of_getLast? last)⟩

theorem trim_titled (nonempty : href ≠ []) : Text.trim (titled href title) = titled href title := by
  obtain ⟨c, rest, rfl⟩ := List.exists_cons_of_ne_nil nonempty
  have ends : titled (c :: rest) title = c :: (rest ++ " \"".toList ++ title) ++ ['"'] := rfl
  rw [ends]
  exact Text.trimBy_of_ends (solid c List.mem_cons_self) rfl _

omit solid in
/-- A scheme is read up to its slashes, so a title behind it does not count. -/
theorem hasScheme_titled (nonempty : href ≠ []) :
    hasScheme (titled href title) = hasScheme href := by
  obtain ⟨c, rest, rfl⟩ := List.exists_cons_of_ne_nil nonempty
  have behind : titled (c :: rest) title = (c :: rest) ++ ' ' :: ('"' :: title ++ ['"']) := by
    simp [titled]
  have letters : Text.startsWith ((titled (c :: rest) title).dropWhile isLetter) "://".toList =
      Text.startsWith ((c :: rest).dropWhile isLetter) "://".toList := by
    rw [behind, List.dropWhile_append, Bool.eq_iff_iff]
    simp only [Text.startsWith, List.isPrefixOf_iff_prefix]
    split
    next none =>
      have stop : (' ' :: ('"' :: title ++ ['"'])).dropWhile isLetter =
          ' ' :: ('"' :: title ++ ['"']) := List.dropWhile_cons_of_neg (by decide)
      rw [List.isEmpty_iff.mp none, stop]
      simp
    next =>
      refine ⟨Text.isPrefix_of_isPrefix_append_cons (by decide), fun found => ?_⟩
      exact found.trans (List.prefix_append _ _)
  have head : titled (c :: rest) title = c :: (rest ++ " \"".toList ++ title ++ ['"']) := rfl
  rw [head] at letters ⊢
  simp only [hasScheme, letters]

omit solid in
/-- A quotation mark ends no file extension. -/
theorem hasFileExtension_titled : hasFileExtension (titled href title) = false := by
  have last : (titled href title).reverse = '"' :: (href ++ " \"".toList ++ title).reverse := by
    rw [titled, List.reverse_concat]
  rw [hasFileExtension, last]
  rfl

theorem looksInternal_titled (nonempty : href ≠ []) (flat : '/' ∉ title) :
    looksInternal (titled href title) = true ↔ ¬ (hasScheme href ∨ '/' ∈ href) := by
  have slash : '/' ∈ titled href title ↔ '/' ∈ href := by simp [titled, flat]
  simp [looksInternal, trim_titled solid nonempty, hasScheme_titled nonempty,
    hasFileExtension_titled, slash]

end Destination

section Titled

variable {shown href title : Text} (plainShown : IsPlainPart shown) (plain : IsPlainPart href)
  (solid : ∀ c ∈ href, Text.isBlank c = false) (plainTitle : IsPlainPart title)
  (flat : '/' ∉ title) (nonempty : href ≠ [])
include plainShown plain solid plainTitle flat nonempty

omit plainShown solid flat nonempty in
theorem isInert_titled : IsInert (titled href title) where
  noImage := by simp [titled, plain.noImage, plainTitle.noImage]
  noOpening := by simp [titled, plain.noOpening, plainTitle.noOpening]
  noClosing := by simp [titled, plain.noClosing, plainTitle.noClosing]
  noTag := by simp [titled, plain.noTag, plainTitle.noTag]

omit plainShown solid flat nonempty in
theorem end_not_mem_titled : ')' ∉ titled href title := by
  simp [titled, plain.noEnd, plainTitle.noEnd]

omit plainShown flat in
theorem noteTarget_titled : noteTarget (titled href title) = titled href title := by
  have noPercent : '%' ∉ titled href title := by
    simp [titled, plain.unencoded, plainTitle.unencoded]
  exact noteTarget_eq_self (trim_titled solid nonempty) (isInert_titled plain plainTitle).noTag
    noPercent

omit plain solid plainTitle flat nonempty in
/-- No text of a link has the quotation marks of a title. -/
theorem trim_ne_titled : Text.trim shown ≠ titled href title := by
  intro same
  have inside : '"' ∈ Text.trim shown := by simp [same, titled]
  exact plainShown.unquoted ((Text.trimBy_isInfix shown).subset inside)

omit plainShown in
/-- Whether a destination with a title is taken for a note. -/
theorem looksInternal_noteTarget_titled :
    looksInternal (noteTarget (titled href title)) = true ↔ ¬ (hasScheme href ∨ '/' ∈ href) := by
  rw [noteTarget_titled plain solid plainTitle nonempty]
  exact looksInternal_titled solid nonempty flat

theorem apply_emitRules_linkTo_titled :
    RuleSet.apply emitRules (linkTo shown (titled href title)) =
      if shown = [] ∨ hasScheme href ∨ '/' ∈ href then linkTo shown (titled href title)
      else reference "[[".toList (titled href title) (some (Text.trim shown)) := by
  have inert := isInert_titled plain plainTitle
  have closed := end_not_mem_titled plain plainTitle
  have internal := looksInternal_noteTarget_titled plain solid plainTitle flat nonempty
  have name := noteTarget_titled plain solid plainTitle nonempty
  have behind : titled href title ≠ [] := by simp [titled]
  split
  next elsewhere =>
    by_cases unnamed : shown = []
    · rw [unnamed, apply_emitRules_linkTo_unnamed inert]
    · have outside := elsewhere.resolve_left unnamed
      refine apply_emitRules_linkTo_of_external plainShown.toIsInert inert behind closed ?_
      exact Bool.eq_false_iff.mpr fun inside => internal.mp inside outside
  next here =>
    obtain ⟨named, inside⟩ := not_or.mp here
    refine apply_emitRules_linkTo_of_internal plainShown.toIsInert inert behind closed named
      plainShown.unescaped name ?_ (trim_ne_titled plainShown)
    rw [← name]
    exact internal.mpr inside

theorem apply_emitRules_imageOf_titled :
    RuleSet.apply emitRules (imageOf shown (titled href title)) =
      if hasScheme href ∨ '/' ∈ href then imageOf shown (titled href title)
      else reference "![[".toList (titled href title)
        (if (Text.trim shown).isEmpty then none else some (Text.trim shown)) := by
  have inert := isInert_titled plain plainTitle
  have closed := end_not_mem_titled plain plainTitle
  have internal := looksInternal_noteTarget_titled plain solid plainTitle flat nonempty
  have name := noteTarget_titled plain solid plainTitle nonempty
  have behind : titled href title ≠ [] := by simp [titled]
  split
  next outside =>
    refine apply_emitRules_imageOf_of_external plainShown.toIsInert inert behind closed ?_
    exact Bool.eq_false_iff.mpr fun inside => internal.mp inside outside
  next here =>
    refine apply_emitRules_imageOf_of_internal plainShown.toIsInert inert behind closed name ?_
      (trim_ne_titled plainShown)
    rw [← name]
    exact internal.mpr here

end Titled

end Obsidian

open Obsidian

/-- **A title hides the file extension of the destination, and nothing else.**  A link or an image
that leads out of the vault is kept.  With a title behind its destination it is kept if the
destination has a scheme or a slash.  Otherwise it becomes a reference to a note of which
destination and title together are the name. -/
theorem emit_external {shown href title : Text} (plainShown : IsPlainPart shown)
    (plain : IsPlainPart href) (solid : ∀ c ∈ href, Text.isBlank c = false)
    (plainTitle : IsPlainPart title) (flat : '/' ∉ title) (external : looksInternal href = false) :
    (RuleSet.apply (Dialect.builtin .obsidian).emit (writtenLink shown href none) =
        writtenLink shown href none ∧
      RuleSet.apply (Dialect.builtin .obsidian).emit (writtenImage shown href none) =
        writtenImage shown href none) ∧
    RuleSet.apply (Dialect.builtin .obsidian).emit (writtenLink shown href (some title)) =
      (if shown = [] ∨ hasScheme href ∨ '/' ∈ href then writtenLink shown href (some title)
        else reference "[[".toList (titled href title) (some (Text.trim shown))) ∧
    RuleSet.apply (Dialect.builtin .obsidian).emit (writtenImage shown href (some title)) =
      (if hasScheme href ∨ '/' ∈ href then writtenImage shown href (some title)
        else reference "![[".toList (titled href title)
          (if (Text.trim shown).isEmpty then none else some (Text.trim shown))) := by
  have nonempty : href ≠ [] := by
    rintro rfl
    exact Bool.noConfusion external
  have kept : looksInternal (noteTarget href) = false := by
    rwa [noteTarget_eq_self (trim_solid solid) plain.noTag plain.unencoded]
  rw [writtenLink_none plain, writtenLink_some plain plainTitle.unquoted,
    writtenImage_none plainShown.oneLine,
    writtenImage_some plainShown.oneLine plainTitle.unquoted]
  refine ⟨⟨?_, ?_⟩, ?_, ?_⟩
  · exact apply_emitRules_linkTo_of_external plainShown.toIsInert plain.toIsInert nonempty
      plain.noEnd kept
  · exact apply_emitRules_imageOf_of_external plainShown.toIsInert plain.toIsInert nonempty
      plain.noEnd kept
  · exact apply_emitRules_linkTo_titled plainShown plain solid plainTitle flat nonempty
  · exact apply_emitRules_imageOf_titled plainShown plain solid plainTitle flat nonempty

/-- A link to a file, without a title and with one. -/
theorem emit_external_of_report :
    IsPlainPart "the report".toList ∧ IsPlainPart "report.pdf".toList ∧
      (∀ c ∈ "report.pdf".toList, Text.isBlank c = false) ∧ IsPlainPart "Last year".toList ∧
      '/' ∉ "Last year".toList ∧ looksInternal "report.pdf".toList = false ∧
      RuleSet.apply (Dialect.builtin .obsidian).emit
          (writtenLink "the report".toList "report.pdf".toList none) =
        "[the report](report.pdf)".toList ∧
      RuleSet.apply (Dialect.builtin .obsidian).emit
          (writtenLink "the report".toList "report.pdf".toList (some "Last year".toList)) =
        "[[report.pdf \"Last year\"|the report]]".toList := by
  have shown : IsPlainPart "the report".toList := by decide
  have plain : IsPlainPart "report.pdf".toList := by decide
  have noBlank : "report.pdf".toList.any Text.isBlank = false := by decide
  have solid : ∀ c ∈ "report.pdf".toList, Text.isBlank c = false := fun c member =>
    Bool.eq_false_iff.mpr (List.any_eq_false.mp noBlank c member)
  have title : IsPlainPart "Last year".toList := by decide
  have flat : '/' ∉ "Last year".toList := by decide
  have external : looksInternal "report.pdf".toList = false := by decide
  obtain ⟨⟨link, _⟩, linkTitled, _⟩ := emit_external shown plain solid title flat external
  exact ⟨shown, plain, solid, title, flat, external, link, linkTitled.trans (by decide)⟩

/-- Without its title the link to the paper would be kept. -/
theorem emit_external_loses_title :
    looksInternal "paper.pdf".toList = false ∧
      writtenLink "pdf".toList "paper.pdf".toList (some "Paper".toList) =
        "[pdf](paper.pdf \"Paper\")".toList ∧
      RuleSet.apply (Dialect.builtin .obsidian).emit
          (writtenLink "pdf".toList "paper.pdf".toList (some "Paper".toList)) ≠
        writtenLink "pdf".toList "paper.pdf".toList (some "Paper".toList) := by
  decide

end MarkdownDialects
