import MarkdownDialects.Proofs.Text.Part
import MarkdownDialects.Serialize.Writer

/-!
# Parts of fragments

A text on one line that begins and ends with something shown is left whole by every step of writing:
fragments are joined, trimmed, cut into lines, indented and put into cells around it.
-/

namespace MarkdownDialects

open Text (IsMark)

namespace Serialize

open Html (Node)

theorem blank_of_isFeed : ∀ c : Char, (c == '\n') → Text.isBlank c := fun c feed => by
  rw [beq_iff_eq.mp feed]
  rfl

theorem blank_of_isSpace : ∀ c : Char, (c == ' ' || c == '\t') → Text.isBlank c := fun c space => by
  rcases Bool.or_eq_true_iff.mp space with same | same <;> rw [beq_iff_eq.mp same] <;> rfl

section Shown

variable {c : Char} (shown : Text.isBlank c = false)
include shown

theorem isFeed_of_shown : (c == '\n') = false :=
  Text.eq_false_of_shown (p := (· == '\n')) (blank_of_isFeed c) shown

theorem isSpace_of_shown : (c == ' ' || c == '\t') = false :=
  Text.eq_false_of_shown (p := fun c => c == ' ' || c == '\t') (blank_of_isSpace c) shown

end Shown

/-- Delimiters stand within the white space at the ends of a text. -/
theorem exists_delimit {content : Text} (shown : Text.isAllBlank content = false)
    (delimiter : Text) :
    ∃ front back, (∀ c ∈ front, Text.isBlank c) ∧ (∀ c ∈ back, Text.isBlank c) ∧
      content = front ++ Text.trim content ++ back ∧
      delimit content delimiter =
        front ++ delimiter ++ Text.trim content ++ delimiter ++ back := by
  obtain ⟨back, blank, whole⟩ :=
    Text.exists_trimEndBy_append Text.isBlank (Text.trimStart content)
  have split : content = content.takeWhile Text.isBlank ++ Text.trim content ++ back := by
    rw [List.append_assoc, Text.trim, Text.trimBy, ← whole]
    exact List.takeWhile_append_dropWhile.symm
  have behind : (Text.trimStart content).drop (Text.trimEnd (Text.trimStart content)).length =
      back :=
    (congrArg (List.drop _) whole).trans List.drop_left
  refine ⟨_, back, List.all_eq_true.mp List.all_takeWhile, blank, split, ?_⟩
  rw [delimit, shown, if_neg Bool.false_ne_true]
  dsimp only
  rw [behind]
  rfl

section Fragment

variable {mark : Text} (isMark : IsMark mark)
include isMark

theorem noFeed_head : ∀ c ∈ mark.head?, (c == '\n') = false := fun c first =>
  isFeed_of_shown (isMark.head c first)

theorem isInfix_trim {t : Text} (part : mark <:+: t) : mark <:+: Text.trim t :=
  Text.isInfix_trimBy part isMark.nonempty isMark.head isMark.last

/-- Only line ends, spaces and tabs are taken off the ends of a text where it is joined. -/
theorem isInfix_trimEndBy_of_blank {p : Char → Bool} (blank : ∀ c, p c → Text.isBlank c) {t : Text}
    (part : mark <:+: t) : mark <:+: Text.trimEndBy p t := by
  exact Text.isInfix_trimEndBy part isMark.nonempty fun c last =>
    Text.eq_false_of_shown (blank c) (isMark.last c last)

/-- A part of what is written so far stays where a fragment is appended. -/
theorem isInfix_join_left {out : Text} (part : mark <:+: out) (piece : Text) :
    mark <:+: join out piece := by
  have feeds : mark <:+: Text.trimEndBy (· == '\n') out :=
    isInfix_trimEndBy_of_blank isMark blank_of_isFeed part
  have spaces : mark <:+:
      Text.trimEndBy (fun c => c == ' ' || c == '\t') (Text.trimEndBy (· == '\n') out) :=
    isInfix_trimEndBy_of_blank isMark blank_of_isSpace feeds
  simp only [join]
  split
  · exact part
  · split
    · exact part.trans (List.prefix_append _ _).isInfix
    · rw [List.append_assoc]
      refine List.IsInfix.trans ?_ (List.prefix_append _ _).isInfix
      split
      · exact spaces
      · exact feeds

theorem isInfix_join_right {piece : Text} (part : mark <:+: piece) (out : Text) :
    mark <:+: join out piece := by
  have nonempty : piece ≠ [] := by
    rintro rfl
    exact isMark.nonempty (List.infix_nil.mp part)
  have body : mark <:+: piece.dropWhile (· == '\n') :=
    Text.isInfix_trimStartBy part isMark.nonempty (noFeed_head isMark)
  simp only [join, List.isEmpty_eq_false_iff.mpr nonempty, Bool.false_eq_true, if_false]
  split
  · exact part.trans (List.suffix_append _ _).isInfix
  · exact body.trans (List.suffix_append _ _).isInfix

omit isMark in
theorem isInfix_block {t : Text} (part : mark <:+: t) : mark <:+: block t :=
  part.trans ⟨['\n', '\n'], ['\n', '\n'], by simp [block]⟩

theorem isInfix_delimit {content : Text} (part : mark <:+: content) (delimiter : Text) :
    mark <:+: delimit content delimiter := by
  have shown : Text.isAllBlank content = false := by
    rw [Bool.eq_false_iff]
    intro blank
    obtain ⟨c, rest, rfl⟩ := List.exists_cons_of_ne_nil isMark.nonempty
    have all := List.all_eq_true.mp blank c (part.subset List.mem_cons_self)
    exact Bool.noConfusion ((isMark.head c rfl).symm.trans all)
  obtain ⟨front, back, _, _, _, delimited⟩ := exists_delimit shown delimiter
  rw [delimited, List.append_assoc]
  exact (isInfix_trim isMark part).trans (List.infix_append _ _ _)

theorem isInfix_quote {content : Text} (part : mark <:+: content) : mark <:+: quote content := by
  have inside : mark <:+: Text.trimBy (· == '\n') content := by
    refine Text.isInfix_trimBy part isMark.nonempty (noFeed_head isMark) fun c last => ?_
    rw [beq_eq_false_iff_ne]
    rintro rfl
    exact Bool.noConfusion (isMark.last _ last)
  obtain ⟨line, member, within⟩ := Text.exists_line_of_isInfix inside isMark.oneLine
  have quoted : mark <:+: if line.isEmpty then ['>'] else '>' :: ' ' :: line := by
    split
    · rename_i empty
      rw [List.isEmpty_iff.mp empty] at within
      exact absurd (List.infix_nil.mp within) isMark.nonempty
    · exact within.trans (List.suffix_append ['>', ' '] line).isInfix
  exact isInfix_block (quoted.trans (Text.isInfix_intercalate (List.mem_map_of_mem member)))

theorem isInfix_listItem {content : Text} (part : mark <:+: content) (sign : Text) :
    mark <:+: listItem sign content := by
  have inside : mark <:+: Text.trimEnd (content.dropWhile (· == '\n')) :=
    isInfix_trimEndBy_of_blank isMark (fun _ blank => blank)
      (Text.isInfix_trimStartBy part isMark.nonempty (noFeed_head isMark))
  obtain ⟨line, member, within⟩ := Text.exists_line_of_isInfix inside isMark.oneLine
  simp only [listItem]
  generalize Text.lines (Text.trimEnd (content.dropWhile (· == '\n'))) = ls at member
  cases ls with
  | nil => exact absurd member List.not_mem_nil
  | cons first rest =>
    rcases List.mem_cons.mp member with rfl | later
    · exact (within.trans (List.suffix_append sign line).isInfix).trans
        (Text.isInfix_intercalate List.mem_cons_self)
    · have indented : mark <:+: if line.isEmpty then [] else Text.rep sign.length ' ' ++ line := by
        split
        · rename_i empty
          rwa [List.isEmpty_iff.mp empty] at within
        · exact within.trans (List.suffix_append _ line).isInfix
      exact indented.trans
        (Text.isInfix_intercalate (List.mem_cons_of_mem _ (List.mem_map_of_mem later)))

omit isMark in
theorem isInfix_listBlock {item : Text} (part : mark <:+: item) {items : List Text}
    (member : item ∈ items) (parent : String) (content : List Node) :
    mark <:+: listBlock parent content items := by
  have inside (sep : Text) : mark <:+: sep.intercalate items :=
    part.trans (Text.isInfix_intercalate member)
  simp only [listBlock]
  split
  · exact (inside _).trans ⟨['\n'], ['\n'], rfl⟩
  · exact isInfix_block (inside _)

theorem isInfix_cellText {content : Text} (part : mark <:+: content) :
    mark <:+: cellText content :=
  Text.isInfix_replaceChar (isInfix_trim isMark part) isMark.oneLine _

omit isMark in
theorem isInfix_tableLine {cell : Text} (part : mark <:+: cell) {cells : List Text}
    (member : cell ∈ cells) : mark <:+: tableLine cells := by
  have inside : cell <:+: " | ".toList.intercalate cells := Text.isInfix_intercalate member
  exact part.trans (inside.trans (List.infix_append _ _ _))

omit isMark in
theorem le_foldl_max {n : Nat} {ns : List Nat} (member : n ∈ ns) (least : Nat) :
    n ≤ ns.foldl max least := by
  have grows (ns : List Nat) (least : Nat) : least ≤ ns.foldl max least := by
    induction ns generalizing least with
    | nil => exact Nat.le_refl least
    | cons m ns ih => exact (Nat.le_max_left least m).trans (ih _)
  induction ns generalizing least with
  | nil => exact absurd member List.not_mem_nil
  | cons m ns ih =>
    rcases List.mem_cons.mp member with rfl | later
    · exact (Nat.le_max_right least n).trans (grows ns _)
    · exact ih later _

omit isMark in
/-- A table has a column for every cell of every row. -/
theorem isInfix_tableBlock {cell : Text} (part : mark <:+: cell) {row : List Text}
    (inRow : cell ∈ row) {rows : List (List Text)} (member : row ∈ rows) (firstRow : List Node) :
    mark <:+: tableBlock firstRow rows := by
  have columns : (rows.map List.length).foldl max 0 ≠ 0 := by
    have wide := le_foldl_max (List.mem_map_of_mem (f := List.length) member) 0
    have positive := List.length_pos_of_mem inRow
    omega
  simp only [tableBlock, if_neg columns]
  generalize (rows.map List.length).foldl max 0 = columns
  have line := isInfix_tableLine part
    (List.mem_append_left (List.replicate (columns - row.length) []) inRow)
  refine isInfix_block (line.trans (Text.isInfix_intercalate ?_))
  have present := List.mem_map_of_mem
    (f := fun row => tableLine (row ++ List.replicate (columns - row.length) [])) member
  rw [← List.take_append_drop 1 (rows.map _), List.mem_append] at present
  rcases present with first | later
  · exact List.mem_append_left _ first
  · exact List.mem_append_right _ (List.mem_cons_of_mem _ later)

omit isMark in
theorem isInfix_link (e : Element) (content : Text) : content <:+: link e content := by
  unfold link
  split
  · simp only [List.append_assoc, List.cons_append]
    exact (List.prefix_append content _).isInfix.trans (List.suffix_cons '[' _).isInfix
  · exact List.infix_refl content

/-- An element that is written from its content keeps what is in there. -/
theorem isInfix_wrap {content : Text} (part : mark <:+: content) (options : SerializeOptions)
    (e : Element) : mark <:+: wrap options e content := by
  have title : mark <:+: Text.replaceChar '\n' [' '] (Text.trim content) :=
    isInfix_cellText isMark part
  simp only [wrap]
  split
  next level _ =>
    -- A heading, underlined or not, is its content between other characters.
    simp only [heading]
    refine isInfix_block ?_
    split
    · exact title.trans (List.prefix_append _ _).isInfix
    · exact title.trans ⟨Text.rep level '#' ++ [' '], [], by simp⟩
  next =>
    split_ifs
    · exact part
    · exact isInfix_block (isInfix_trim isMark part)
    · exact isInfix_quote isMark part
    · exact isInfix_delimit isMark part _
    · exact isInfix_delimit isMark part _
    · exact isInfix_delimit isMark part _
    · exact part.trans (isInfix_link e content)
    · exact isInfix_block part
    · exact part

end Fragment

end Serialize

end MarkdownDialects
