import MarkdownDialects.Proofs.Markdown.Render

/-!
# What reflow means to a reader

Reflow joins and breaks lines by looking at one line or one word at a time, and Markdown asks for
more than that.  For prose it is enough: the HTML of a reflowed text is that of the text, up to
white space (`Markdown.render_reflow_of_isProse`).  Where a word that the guard of wrapping lets
through is a list marker after all, the meaning changes
(`Markdown.render_reflow_parenthesis_marker`).
-/

namespace MarkdownDialects

namespace Markdown

section Collapse

theorem collapseBlanks_append_of_isWord {front : Text} (isWord : Text.IsWord front)
    (spaced : Bool) (rest : Text) :
    collapseBlanks spaced (front ++ rest) = front ++ collapseBlanks false rest := by
  induction front generalizing spaced with
  | nil => exact absurd rfl isWord.1
  | cons c front ih =>
    have first : Text.isBlank c = false := isWord.2 c List.mem_cons_self
    rw [List.cons_append, collapseBlanks, if_neg (by simp [first])]
    cases front with
    | nil => rfl
    | cons d front =>
      rw [ih ⟨List.cons_ne_nil d front, fun e member => isWord.2 e (.tail _ member)⟩]
      rfl

/-- What comes before a shown character is collapsed for itself. -/
theorem collapseBlanks_append_shown (front : Text) {c : Char} (shown : Text.isBlank c = false)
    (spaced : Bool) (rest : Text) :
    collapseBlanks spaced (front ++ c :: rest) =
      collapseBlanks spaced front ++ c :: collapseBlanks false rest := by
  induction front generalizing spaced with
  | nil => simp [collapseBlanks, shown]
  | cons d front ih =>
    rw [List.cons_append, collapseBlanks, collapseBlanks]
    split
    · split
      · exact ih true
      · rw [ih true]; rfl
    · rw [ih false]; rfl

/-- Collapsed behind white space, a text is its words with one space between neighbours, as long as
it ends with something shown. -/
theorem collapseBlanks_eq_unwords {t : Text} (ends : ∀ c ∈ t.getLast?, Text.isBlank c = false) :
    collapseBlanks true t = Text.unwords (Text.words t) := by
  -- Word by word, and white space is skipped one character at a time.
  induction length : t.length using Nat.strong_induction_on generalizing t with
  | _ n ih =>
    subst length
    cases t with
    | nil => rfl
    | cons c t =>
      by_cases blank : Text.isBlank c
      · have later : ∀ d ∈ t.getLast?, Text.isBlank d = false := by
          intro d last
          have nonempty : t ≠ [] := List.ne_nil_of_mem (List.mem_of_getLast? last)
          exact ends d (List.getLast?_cons_of_ne_nil nonempty ▸ last)
        rw [collapseBlanks, if_pos blank, if_pos rfl, Text.words_cons_blank blank]
        exact ih t.length (Nat.lt_succ_self _) later rfl
      · obtain ⟨word, after, split, isWord, endsWord⟩ :=
          Text.exists_leading_word (Bool.eq_false_iff.mpr blank) t
        rw [split, Text.words_append_of_isWord isWord endsWord,
          collapseBlanks_append_of_isWord isWord]
        rw [split] at ends
        cases after with
        | nil => rw [Text.words_nil, Text.unwords_singleton, collapseBlanks, List.append_nil]
        | cons b rest =>
          have blank : Text.isBlank b := endsWord b rfl
          rw [List.getLast?_append_of_ne_nil _ (List.cons_ne_nil b rest)] at ends
          -- Something shown comes after the white space, so a word does.
          have nonempty : rest ≠ [] := by
            rintro rfl
            exact Bool.noConfusion ((ends b rfl).symm.trans blank)
          rw [List.getLast?_cons_of_ne_nil nonempty] at ends
          obtain ⟨next, others, read⟩ : ∃ next others, Text.words rest = next :: others := by
            apply List.exists_cons_of_ne_nil
            rw [Ne, Text.words_eq_nil_iff, Text.isAllBlank, List.all_eq_true]
            intro all
            have last := ends _ (List.getLast?_eq_getLast_of_ne_nil nonempty)
            exact Bool.noConfusion (last.symm.trans (all _ (List.getLast_mem nonempty)))
          have shorter : rest.length < (c :: t).length := by simp [split]; omega
          have rest_eq := ih rest.length shorter ends rfl
          rw [collapseBlanks, if_pos blank, if_neg Bool.false_ne_true, rest_eq,
            Text.words_cons_blank blank, read, Text.unwords_cons_cons]

theorem escapeChar_of_isBlank {c : Char} (blank : Text.isBlank c) : Html.escapeChar c = [c] := by
  unfold Html.escapeChar
  split
  · exact Bool.noConfusion blank
  · exact Bool.noConfusion blank
  · exact Bool.noConfusion blank
  · exact Bool.noConfusion blank
  · rfl

theorem isWord_escapeChar {c : Char} (shown : Text.isBlank c = false) :
    Text.IsWord (Html.escapeChar c) := by
  unfold Html.escapeChar
  split
  · decide
  · decide
  · decide
  · decide
  · simpa [Text.IsWord] using shown

/-- White space is the same in a text and in its HTML. -/
theorem collapseBlanks_escape (spaced : Bool) (t : Text) :
    collapseBlanks spaced (Html.escape t) = Html.escape (collapseBlanks spaced t) := by
  induction t generalizing spaced with
  | nil => rfl
  | cons c t ih =>
    have split (c : Char) (t : Text) : Html.escape (c :: t) = Html.escapeChar c ++ Html.escape t :=
      List.flatMap_cons
    rw [split, collapseBlanks]
    by_cases blank : Text.isBlank c
    · rw [escapeChar_of_isBlank blank, List.singleton_append, collapseBlanks, if_pos blank,
        if_pos blank, ih true]
      cases spaced <;> rfl
    · have shown := isWord_escapeChar (Bool.eq_false_iff.mpr blank)
      rw [collapseBlanks_append_of_isWord shown, if_neg blank, split, ih false]

end Collapse

/-- The words of a paragraph are what its HTML shows, up to white space. -/
theorem collapseBlanks_proseHtml {ls : List Text} (paragraph : IsProseParagraph ls) (spaced : Bool)
    (rest : Text) :
    collapseBlanks spaced (proseHtml ls ++ rest) =
      "<p>".toList ++ Html.escape (Text.unwords (paragraphWords ls)) ++ "</p>".toList ++
        collapseBlanks false ('\n' :: rest) := by
  have opening : proseHtml ls ++ rest =
      "<p>".toList ++ (Html.escape (Text.unlines ls) ++ '<' :: ("/p>".toList ++ '\n' :: rest)) := by
    simp [proseHtml]
  have ends := Text.trimBy_eq_self_iff.mp paragraph.trim_unlines
  have inner : collapseBlanks false (Text.unlines ls) = Text.unwords (paragraphWords ls) := by
    rw [paragraphWords, ← Text.words_unlines,
      ← collapseBlanks_eq_unwords (Text.trimEndBy_eq_self_iff.mp ends.2)]
    cases whole : Text.unlines ls with
    | nil => rfl
    | cons c more =>
      have shown : Text.isBlank c = false :=
        Text.trimStartBy_eq_self_iff.mp ends.1 c (by simp [whole])
      rw [collapseBlanks, collapseBlanks, if_neg (by simp [shown]), if_neg (by simp [shown])]
  rw [opening, collapseBlanks_append_of_isWord (by decide),
    collapseBlanks_append_shown _ (by decide), collapseBlanks_escape, inner,
    collapseBlanks_append_of_isWord (by decide)]
  simp

/-- Paragraphs of the same words have the same HTML, up to white space. -/
theorem collapseBlanks_flatMap_proseHtml {ps qs : List (List Text)}
    (same : List.Forall₂ (fun ls ms => IsProseParagraph ls ∧ IsProseParagraph ms ∧
      paragraphWords ls = paragraphWords ms) ps qs) (spaced : Bool) :
    collapseBlanks spaced (ps.flatMap proseHtml) =
      collapseBlanks spaced (qs.flatMap proseHtml) := by
  induction same generalizing spaced with
  | nil => rfl
  | @cons ls ms ps qs first _ ih =>
    obtain ⟨left, right, words⟩ := first
    rw [List.flatMap_cons, List.flatMap_cons, collapseBlanks_proseHtml left,
      collapseBlanks_proseHtml right, words]
    have feed (rest : Text) :
        collapseBlanks false ('\n' :: rest) = ' ' :: collapseBlanks true rest := rfl
    rw [feed, feed, ih true]

/-- **Reflow keeps what prose means.**  The HTML of the reflowed text is that of the text, up to
white space. -/
theorem render_reflow_of_isProse {options : RenderOptions} (soft : options.breaks = false)
    (width : Nat) {t : Text} (prose : IsProse t) :
    collapseBlanks false (render options (reflow width t)) =
      collapseBlanks false (render options t) := by
  by_cases zero : width = 0
  · rw [reflow, if_pos zero]
  · have led : AllLed (Text.lines t) := fun line member => (prose line member).imp_right (·.led)
    have after := prose.reflow width
    rw [render_of_isProse soft prose, render_of_isProse soft after]
    have wrapped := paragraphs_reflow zero led
    apply collapseBlanks_flatMap_proseHtml
    rw [wrapped, List.forall₂_map_left_iff]
    refine List.forall₂_same.mpr fun ls member => ⟨?_, prose.isProseParagraph member, ?_⟩
    · exact after.isProseParagraph (wrapped ▸ List.mem_map_of_mem member)
    · exact paragraphWords_rewrap width ls

/-- Words that may not lead a line are no harm within one. -/
theorem render_reflow_of_two_paragraphs :
    IsProse "one - two 3. four > five\n\nsix: (seven) # eight!".toList ∧
      collapseBlanks false
          (render {} (reflow 12 "one - two 3. four > five\n\nsix: (seven) # eight!".toList)) =
        collapseBlanks false
          (render {} "one - two 3. four > five\n\nsix: (seven) # eight!".toList) :=
  ⟨by decide +kernel, render_reflow_of_isProse rfl 12 (by decide +kernel)⟩

/-- The guard of wrapping does not know the list marker `1)`.  It may lead a line, and then makes an
item of the words after it. -/
theorem render_reflow_parenthesis_marker :
    8 ≤ 12 ∧ 12 ≤ 1024 ∧
      collapseBlanks false (render {} (reflow 12 "see the part 1) here".toList)) ≠
        collapseBlanks false (render {} "see the part 1) here".toList) := by
  decide +kernel

end Markdown

end MarkdownDialects
