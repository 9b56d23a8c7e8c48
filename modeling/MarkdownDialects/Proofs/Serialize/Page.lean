import MarkdownDialects.Proofs.Html.Page
import MarkdownDialects.Proofs.Line.Fenced
import MarkdownDialects.Proofs.Text.Trim
import MarkdownDialects.Serialize.Writer

/-!
# Writing short pages
-/

namespace MarkdownDialects

namespace Serialize

open Html (Node)
open Html.Builder (soleDocument pageDocument)

/-- What is trimmed from the ends of a document. -/
def isOuter (c : Char) : Bool := c == '\n' || c == '\r' || c == '\t'

/-- A text that begins and ends a fragment with something shown. -/
structure IsSolid (t : Text) : Prop where
  nonempty : t ≠ []
  head : ∀ c ∈ t.head?, isOuter c = false
  last : ∀ c ∈ t.getLast?, isOuter c = false

/-- Between two characters that are shown anything may stand. -/
theorem isSolid_of_ends {c d : Char} (first : isOuter c = false) (last : isOuter d = false)
    (t : Text) : IsSolid (c :: t ++ [d]) where
  nonempty := List.cons_ne_nil _ _
  head e front := Option.some.inj front ▸ first
  last e final := by
    rw [List.getLast?_concat] at final
    exact Option.some.inj final ▸ last

theorem IsSolid.exists_cons {t : Text} (solid : IsSolid t) :
    ∃ c rest, t = c :: rest ∧ c ≠ '\n' := by
  obtain ⟨c, t, rfl⟩ := List.exists_cons_of_ne_nil solid.nonempty
  refine ⟨c, t, rfl, ?_⟩
  rintro rfl
  exact Bool.noConfusion (solid.head _ rfl)

theorem join_nil_solid {t : Text} (solid : IsSolid t) : join [] t = t := by
  obtain ⟨c, rest, rfl, noFeed⟩ := solid.exists_cons
  simp [join, noFeed, Text.trimEndBy]

theorem join_nil_block {t : Text} (solid : IsSolid t) : join [] (block t) = block t := by
  obtain ⟨c, t, rfl, noFeed⟩ := solid.exists_cons
  have body : (block (c :: t)).dropWhile (· == '\n') = c :: t ++ ['\n', '\n'] := by
    simp [block, noFeed]
  have leading : (block (c :: t)).length - (c :: t ++ ['\n', '\n']).length = 2 := by
    simp [block]
  simp only [join, body, leading]
  simp [block, Text.trimEndBy]
  rfl

theorem trimBy_block {t : Text} (solid : IsSolid t) : Text.trimBy isOuter (block t) = t := by
  have first : Text.trimStartBy isOuter (block t) = t ++ ['\n', '\n'] := by
    obtain ⟨c, t, rfl⟩ := List.exists_cons_of_ne_nil solid.nonempty
    have outer : isOuter c = false := solid.head c rfl
    have feed : isOuter '\n' := rfl
    simp [block, Text.trimStartBy, outer, feed]
  have feeds : ∀ c ∈ ['\n', '\n'], isOuter c := List.all_eq_true.mp rfl
  rw [Text.trimBy, first, Text.trimEndBy_append feeds]
  exact Text.trimEndBy_eq_self_iff.mpr solid.last

/-- A document whose body holds these nodes. -/
def bodyDocument (content : List Node) : List Node :=
  [.element "html" [] [.element "head" [] [], .element "body" [] content]]

theorem isBlankText_of_isBlock {n : Node} (isBlock : isBlockNode n) : isBlankText n = false := by
  cases n with
  | text t => exact absurd isBlock Bool.false_ne_true
  | element _ _ _ => rfl
  | comment _ => rfl

/-- What is written for the only block of a body is the document; white space may be behind it. -/
theorem writeDocument_body {options : SerializeOptions} {n : Node} (isBlock : isBlockNode n)
    {t : Text} (solid : IsSolid t) {pen : Pen}
    (written : writeNode options ElementRule.defaults "body" n ⟨true, false⟩ = (block t, pen))
    (gap : Option Text) (blank : ∀ space ∈ gap, Text.isAllBlank space) :
    writeDocument options ElementRule.defaults
      (bodyDocument (n :: (gap.map Node.text).toList)) = t := by
  have body : writeChildren options ElementRule.defaults "body" true
      (n :: (gap.map Node.text).toList) ⟨true, false⟩ [] = (block t, pen) := by
    simp only [writeChildren, isBlankText_of_isBlock isBlock, Bool.false_and, Bool.false_eq_true,
      if_false, written, isBlock, join_nil_block solid]
    cases gap with
    | none => rfl
    | some space =>
      have skipped : isBlankText (.text space) := blank space rfl
      simp [writeChildren, skipped]
  have outer : writeDocument options ElementRule.defaults
      (bodyDocument (n :: (gap.map Node.text).toList)) =
        Text.trimBy isOuter (join [] (join [] (writeChildren options ElementRule.defaults "body"
          true (n :: (gap.map Node.text).toList) ⟨true, false⟩ []).1)) := rfl
  rw [outer, body, join_nil_block solid, join_nil_block solid, trimBy_block solid]

/-- What is written for the only node of a body is the document. -/
theorem writeDocument_sole {options : SerializeOptions} {n : Node} (isBlock : isBlockNode n)
    {t : Text} (solid : IsSolid t) {pen : Pen}
    (written : writeNode options ElementRule.defaults "body" n ⟨true, false⟩ = (block t, pen)) :
    writeDocument options ElementRule.defaults (soleDocument n) = t :=
  writeDocument_body isBlock solid written (some ['\n']) fun _ feed =>
    Option.some.inj feed ▸ rfl

/-- White space that is single spaces does not collapse. -/
theorem collapse_of_spaced {t : Text} (single : ∀ c ∈ t, c ≠ ' ' → collapses c = false)
    (spaced : ¬ [' ', ' '] <:+: t) : collapse t = t := by
  induction t with
  | nil => rfl
  | cons c t ih =>
    have others := ih (fun d member => single d (.tail c member)) fun found =>
      spaced (found.trans (List.suffix_cons c t).isInfix)
    by_cases space : c = ' '
    · subst space
      cases t with
      | nil => rfl
      | cons d t =>
        have different : d ≠ ' ' := by
          rintro rfl
          exact spaced ⟨[], t, rfl⟩
        have next := single d (.tail _ List.mem_cons_self) different
        rw [collapse, others]
        simp [next]
    · have kept := single c List.mem_cons_self space
      rw [collapse.eq_def]
      simp [kept, others]

/-- Text that is collapsed to one without spaces at its ends is escaped. -/
theorem writeText_of_collapse {t s : Text} (collapsed : collapse t = s) (nonempty : s ≠ [])
    (first : s.head? ≠ some ' ') (last : s.getLast? ≠ some ' ') :
    writeText t ⟨true, false⟩ = (escape s, ⟨false, false⟩) := by
  have front : s.dropWhile (· == ' ') = s := by
    obtain ⟨c, rest, rfl⟩ := List.exists_cons_of_ne_nil nonempty
    exact List.dropWhile_cons_of_neg (by simpa using first)
  have shown : s.isEmpty = false := List.isEmpty_eq_false_iff.mpr nonempty
  have ends : (s.getLast? == some ' ') = false := beq_eq_false_iff_ne.mpr last
  simp only [writeText, collapsed, if_true, front, shown, ends]
  rfl

/-- Text without white space to collapse or to drop is escaped and otherwise kept. -/
theorem writeText_of_spaced {t : Text} (nonempty : t ≠ [])
    (single : ∀ c ∈ t, c ≠ ' ' → collapses c = false) (spaced : ¬ [' ', ' '] <:+: t)
    (first : t.head? ≠ some ' ') (last : t.getLast? ≠ some ' ') :
    writeText t ⟨true, false⟩ = (escape t, ⟨false, false⟩) :=
  writeText_of_collapse (collapse_of_spaced single spaced) nonempty first last

/-- Three backticks are enough around code without any. -/
theorem fenceLength_eq_three {code : Text} (clean : '`' ∉ code) : fenceLength code = 3 := by
  have short : ((Text.lines code).map fun line =>
      ((Text.trimStart line).takeWhile (· == '`')).length).filter (3 ≤ ·) = [] := by
    rw [List.filter_eq_nil_iff]
    intro n member
    obtain ⟨line, inside, rfl⟩ := List.mem_map.mp member
    have noRun : ((Text.trimStart line).takeWhile (· == '`')).length = 0 :=
      Fence.runLength_eq_zero fun within => Text.not_mem_of_mem_lines clean inside
        ((List.dropWhile_suffix Text.isBlank).mem within)
    rw [noRun]
    decide
  simp only [fenceLength, short]
  rfl

/-- Code with a line feed behind it is written between fences without it. -/
theorem codeBlock_fenced {code : Text} (clean : '`' ∉ code) :
    codeBlock .fenced [.element "code" [] [.text (code ++ ['\n'])]] = block (fenced code) := by
  have content :
      Text.before? ['\n'] (Node.textContent (.element "code" [] [.text (code ++ ['\n'])])) =
      some code := by
    rw [Text.before?_eq_some_iff]
    simp [Node.textContent, Node.textContents]
  have read : codeBlock .fenced [.element "code" [] [.text (code ++ ['\n'])]] =
      block (fencedCode [] ((Text.before? ['\n']
        (Node.textContent (.element "code" [] [.text (code ++ ['\n'])]))).getD
          (Node.textContent (.element "code" [] [.text (code ++ ['\n'])])))) := rfl
  have between : fencedCode [] code = fenced code := by
    simp [fencedCode, fenceLength_eq_three clean, fenced]
    rfl
  rw [read, content, Option.getD_some, between]

theorem isSolid_fenced (code : Text) : IsSolid (fenced code) := by
  have shape : fenced code = '`' :: ("``\n".toList ++ (code ++ "\n``".toList)) ++ ['`'] := by
    simp [fenced]
  rw [shape]
  exact isSolid_of_ends rfl rfl _

/-- **Code is written between fences as it is.** -/
theorem writeDocument_code {options : SerializeOptions} (style : options.codeBlockStyle = .fenced)
    {code : Text} (clean : '`' ∉ code) :
    writeDocument options ElementRule.defaults
      (pageDocument "pre" (.ofName "code") (code ++ ['\n'])) = fenced code := by
  have written : writeNode options ElementRule.defaults "body"
      (.element "pre" [] [.element "code" [] [.text (code ++ ['\n'])]]) ⟨true, false⟩ =
        (codeBlock options.codeBlockStyle [.element "code" [] [.text (code ++ ['\n'])]],
          ⟨true, false⟩) := rfl
  rw [style, codeBlock_fenced clean] at written
  exact writeDocument_sole rfl (isSolid_fenced code) written

end Serialize

end MarkdownDialects
