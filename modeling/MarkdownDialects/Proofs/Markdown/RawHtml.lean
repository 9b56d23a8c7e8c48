import MarkdownDialects.Markdown.Inline.Reader

/-!
# Where tags and character references end

A tag and the other pieces of raw HTML end with `>` (`Markdown.RawHtml.mem_of_afterTag?`), as do
addresses in angle brackets.  A character reference ends with `;`
(`Markdown.mem_of_characterReference?`).  So `<` and `&` mean nothing in a text that goes on without
these.
-/

namespace MarkdownDialects

namespace Markdown

namespace RawHtml

variable {t rest : Text}

theorem suffix_of_afterTagName? (found : afterTagName? t = some rest) : rest <:+ t := by
  cases t with
  | nil => exact nomatch found
  | cons c t =>
    rw [afterTagName?] at found
    split at found
    · cases found
      exact (List.dropWhile_suffix _).trans (List.suffix_cons _ _)
    · exact nomatch found

theorem suffix_of_afterAttributeName? (found : afterAttributeName? t = some rest) :
    rest <:+ t := by
  cases t with
  | nil => exact nomatch found
  | cons c t =>
    rw [afterAttributeName?] at found
    split at found
    · cases found
      exact (List.dropWhile_suffix _).trans (List.suffix_cons _ _)
    · exact nomatch found

/-- What closes a quoted piece stands at its end. -/
theorem suffix_of_afterMark? {mark : Char} (found : afterMark? mark t = some rest) :
    mark :: rest <:+ t := by
  have stops := List.head?_dropWhile_not (· != mark) t
  have left := List.dropWhile_suffix (l := t) (· != mark)
  rw [afterMark?] at found
  cases ahead : t.dropWhile (· != mark) with
  | nil =>
    rw [ahead] at found
    exact nomatch found
  | cons c after =>
    rw [ahead] at found stops left
    cases found
    have same : c = mark := by simpa using stops
    exact same ▸ left

theorem suffix_of_afterValue? (found : afterValue? t = some rest) : rest <:+ t := by
  unfold afterValue? at found
  split at found
  · exact ((List.suffix_cons _ _).trans (suffix_of_afterMark? found)).trans (List.suffix_cons _ _)
  · exact ((List.suffix_cons _ _).trans (suffix_of_afterMark? found)).trans (List.suffix_cons _ _)
  · split at found
    · cases found
      exact (List.dropWhile_suffix _).trans (List.suffix_cons _ _)
    · exact nomatch found
  · exact nomatch found

theorem suffix_of_afterAttribute? (found : afterAttribute? t = some rest) : rest <:+ t := by
  obtain ⟨after, named, found⟩ := Option.bind_eq_some_iff.mp found
  have name := suffix_of_afterAttributeName? named
  split at found
  · rename_i value equals
    have sign : '=' :: value <:+ after := equals ▸ List.dropWhile_suffix _
    have inside := (suffix_of_afterValue? found).trans (List.dropWhile_suffix _)
    exact ((inside.trans (List.suffix_cons _ _)).trans sign).trans name
  · cases found
    exact name

theorem suffix_of_afterAttributes {fuel : Nat} (found : afterAttributes fuel t = some rest) :
    rest <:+ t := by
  induction fuel generalizing t with
  | zero =>
    cases found
    exact List.suffix_refl _
  | succ fuel ih =>
    simp only [afterAttributes] at found
    split at found
    · split at found
      · rename_i after taken
        exact ((ih found).trans (suffix_of_afterAttribute? taken)).trans
          (List.dropWhile_suffix _)
      · exact nomatch found
    · cases found
      exact List.suffix_refl _

theorem mem_of_afterOpeningTag? (found : afterOpeningTag? t = some rest) : '>' ∈ t := by
  obtain ⟨inside, named, found⟩ := Option.bind_eq_some_iff.mp found
  obtain ⟨last, attributes, found⟩ := Option.bind_eq_some_iff.mp found
  have back : last.dropWhile Ascii.isSpace <:+ t :=
    ((List.dropWhile_suffix _).trans (suffix_of_afterAttributes attributes)).trans
      (suffix_of_afterTagName? named)
  split at found
  · rename_i closing
    exact back.mem (closing ▸ List.mem_cons_self)
  · rename_i closing
    exact back.mem (closing ▸ .tail _ List.mem_cons_self)
  · exact nomatch found

theorem mem_of_afterClosingTag? (found : afterClosingTag? t = some rest) : '>' ∈ t := by
  unfold afterClosingTag? at found
  split at found
  · rename_i name
    obtain ⟨after, named, found⟩ := Option.bind_eq_some_iff.mp found
    have back : after.dropWhile Ascii.isSpace <:+ '/' :: name :=
      ((List.dropWhile_suffix _).trans (suffix_of_afterTagName? named)).trans
        (List.suffix_cons _ _)
    split at found
    · rename_i closing
      exact back.mem (closing ▸ List.mem_cons_self)
    · exact nomatch found
  · exact nomatch found

/-- **A tag ends with an angle bracket.** -/
theorem mem_of_afterTag? (found : afterTag? t = some rest) : '>' ∈ t := by
  rcases Option.or_eq_some_iff.mp found with opening | ⟨_, closing⟩
  · exact mem_of_afterOpeningTag? opening
  · exact mem_of_afterClosingTag? closing

theorem mem_of_afterCommentInside? (found : afterCommentInside? t = some rest) : '>' ∈ t := by
  fun_induction afterCommentInside? t <;> simp_all

theorem mem_of_afterSectionInside? (found : afterSectionInside? t = some rest) : '>' ∈ t := by
  fun_induction afterSectionInside? t <;> simp_all

theorem mem_of_afterInstructionInside? (found : afterInstructionInside? t = some rest) :
    '>' ∈ t := by
  fun_induction afterInstructionInside? t <;> simp_all

theorem suffix_of_afterSectionStart? (found : afterSectionStart? t = some rest) : rest <:+ t := by
  simp only [afterSectionStart?] at found
  split at found
  · cases found
    exact List.drop_suffix _ _
  · exact nomatch found

theorem suffix_of_afterDeclarationName? (found : afterDeclarationName? t = some rest) :
    rest <:+ t := by
  simp only [afterDeclarationName?] at found
  split at found
  · cases found
    exact (List.dropWhile_suffix _).trans (List.dropWhile_suffix _)
  · exact nomatch found

end RawHtml

/-- A numeric reference ends with a semicolon. -/
theorem mem_of_numericReference? {t chars rest : Text}
    (found : numericReference? t = some (chars, rest)) : ';' ∈ t := by
  simp only [numericReference?] at found
  split at found
  · rename_i x after
    split at found
    · split at found
      · rename_i closing
        exact (List.dropWhile_suffix _).mem (closing ▸ List.mem_cons_self)
      · exact nomatch found
    · split at found
      · split at found
        · rename_i closing
          exact .tail _ ((List.dropWhile_suffix _).mem (closing ▸ List.mem_cons_self))
        · exact nomatch found
      · exact nomatch found
  · exact nomatch found

/-- **A character reference ends with a semicolon.** -/
theorem mem_of_characterReference? {t chars rest : Text}
    (found : characterReference? t = some (chars, rest)) : ';' ∈ t := by
  unfold characterReference? at found
  split at found
  · exact .tail _ (mem_of_numericReference? found)
  · unfold namedReference? at found
    split at found
    · rename_i closing
      exact (List.dropWhile_suffix _).mem (closing ▸ List.mem_cons_self)
    · exact nomatch found

namespace Reader

theorem uriInside?_eq_none {t : Text} (unclosed : '>' ∉ t) : uriInside? t = none := by
  simp only [uriInside?]
  split
  · rename_i rest colon
    split
    · split
      · rename_i closing
        have inside : '>' ∈ rest := (List.drop_suffix _ _).mem (closing ▸ List.mem_cons_self)
        exact absurd ((List.drop_suffix _ _).mem (colon ▸ List.mem_cons_of_mem _ inside)) unclosed
      · rfl
    · rfl
  · rfl

theorem mailInside?_eq_none {t : Text} (unclosed : '>' ∉ t) : mailInside? t = none := by
  simp only [mailInside?]
  split
  · rename_i rest sign
    split
    · split
      · rename_i closing
        have inside : '>' ∈ rest := (List.drop_suffix _ _).mem (closing ▸ List.mem_cons_self)
        exact absurd ((List.drop_suffix _ _).mem (sign ▸ List.mem_cons_of_mem _ inside)) unclosed
      · rfl
    · rfl
  · rfl

/-- Where nothing ends with an angle bracket there is no raw HTML; only what was searched for in
vain is noted. -/
theorem rawHtml_of_not_mem (r : Reader) {t : Text} (unclosed : '>' ∉ t) :
    ∃ noComment noSection noDeclaration noInstruction, rawHtml r t =
      (none, { r with noComment, noSection, noDeclaration, noInstruction }) := by
  have untagged : RawHtml.afterTag? t = none := by
    cases found : RawHtml.afterTag? t with
    | none => rfl
    | some rest => exact absurd (RawHtml.mem_of_afterTag? found) unclosed
  -- Whatever kind it opens, raw HTML is found only up to a bracket that is not there.
  unfold rawHtml
  split
  · split
    · exact ⟨_, _, _, _, rfl⟩
    · split
      · simp at unclosed
      · simp at unclosed
      · split
        · rename_i found
          simp [RawHtml.mem_of_afterCommentInside? found] at unclosed
        · exact ⟨_, _, _, _, rfl⟩
      · split
        · rename_i start
          split
          · rename_i found
            have inside := (RawHtml.suffix_of_afterSectionStart? start).mem
              (RawHtml.mem_of_afterSectionInside? found)
            simp [inside] at unclosed
          · exact ⟨_, _, _, _, rfl⟩
        · exact ⟨_, _, _, _, rfl⟩
      · split
        · rename_i start
          split
          · rename_i found
            have inside := (RawHtml.suffix_of_afterDeclarationName? start).mem
              ((RawHtml.suffix_of_afterMark? found).mem List.mem_cons_self)
            simp [inside] at unclosed
          · exact ⟨_, _, _, _, rfl⟩
        · exact ⟨_, _, _, _, rfl⟩
  · split
    · exact ⟨_, _, _, _, rfl⟩
    · split
      · rename_i found
        simp [RawHtml.mem_of_afterInstructionInside? found] at unclosed
      · exact ⟨_, _, _, _, rfl⟩
  · exact ⟨_, _, _, _, by rw [untagged]⟩

end Reader

end Markdown

end MarkdownDialects
