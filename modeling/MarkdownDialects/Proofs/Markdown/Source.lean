import MarkdownDialects.Proofs.Markdown.LinkSyntax
import MarkdownDialects.Proofs.Markdown.RawHtml
import MarkdownDialects.Proofs.Text.Letter

/-!
# Sources of images

What is written between the parentheses of an image is read as its source exactly if the parentheses
in the source are balanced (`Markdown.IsSource.areBalanced_iff`): one that has no counterpart ends
the target, or keeps it from ending.
-/

namespace MarkdownDialects

namespace Markdown

/-- Characters of the sources of images. -/
def isSourceChar (c : Char) : Bool := c.isAlphanum || "-._~/:()#?&=".toList.contains c

/-- Whether every parenthesis has its counterpart, with so many open in front of the text and no
more nested than a destination may have. -/
def areBalanced : Nat → Text → Bool
  | depth, [] => depth == 0
  | depth, c :: rest =>
    if c == '(' then depth < maxParentheses && areBalanced (depth + 1) rest
    else if c == ')' then depth != 0 && areBalanced (depth - 1) rest
    else areBalanced depth rest

/-- The source of an image. -/
structure IsSource (source : Text) : Prop where
  nonempty : source ≠ []
  chars : ∀ c ∈ source, isSourceChar c

instance : DecidablePred IsSource := fun source =>
  decidable_of_iff (source ≠ [] ∧ source.all isSourceChar)
    ⟨fun ⟨nonempty, chars⟩ => ⟨nonempty, List.all_eq_true.mp chars⟩,
      fun source => ⟨source.nonempty, List.all_eq_true.mpr source.chars⟩⟩

theorem ne_of_isSourceChar {c d : Char} (member : isSourceChar c) (other : isSourceChar d = false) :
    c ≠ d := by
  rintro rfl
  exact Bool.noConfusion (member.symm.trans other)

theorem toNat_of_isSourceChar {c : Char} (member : isSourceChar c) :
    33 ≤ c.toNat ∧ c.toNat ≤ 126 := by
  rcases Bool.or_eq_true_iff.mp member with alphanum | listed
  · have range := toNat_of_isAlphanum alphanum
    omega
  · have all : "-._~/:()#?&=".toList.all fun c => 33 ≤ c.toNat && c.toNat ≤ 126 := rfl
    simpa using List.all_eq_true.mp all c (List.contains_iff_mem.mp listed)

/-- Sources have no white space and no control characters. -/
theorem isSpace_of_isSourceChar {c : Char} (member : isSourceChar c) :
    Ascii.isSpace c = false ∧ Ascii.isControl c = false ∧ Ascii.isTrimmed c = false := by
  have range := toNat_of_isSourceChar member
  have solid {d : Char} (other : isSourceChar d = false) : (c == d) = false :=
    beq_eq_false_iff_ne.mpr (ne_of_isSourceChar member other)
  refine ⟨?_, ?_, ?_⟩
  · simp [Ascii.isSpace, ne_of_isSourceChar member (d := ' ') rfl]
    omega
  · simp [Ascii.isControl]
    omega
  · rw [Ascii.isTrimmed, solid rfl, solid rfl, solid rfl, solid rfl]
    rfl

section Destination

variable (depth : Nat) (inside rest : Text)

theorem bareDestination?_open :
    bareDestination? depth inside ('(' :: rest) =
      if maxParentheses ≤ depth then none
      else bareDestination? (depth + 1) ('(' :: inside) rest := by
  have noEscape : ∀ (d : Char) (more : Text), '(' = '\\' → rest = d :: more → False :=
    fun _ _ same => absurd same (by decide)
  cases depth with
  | zero => rw [bareDestination?.eq_3 _ _ _ noEscape]; rfl
  | succ depth => rw [bareDestination?.eq_4 _ _ _ _ noEscape]; rfl

theorem bareDestination?_end :
    bareDestination? 0 inside (')' :: rest) = some (inside.reverse, ')' :: rest) := by
  rw [bareDestination?.eq_3 _ _ _ fun _ _ same => absurd same (by decide)]
  rfl

theorem bareDestination?_close :
    bareDestination? (depth + 1) inside (')' :: rest) =
      bareDestination? depth (')' :: inside) rest := by
  rw [bareDestination?.eq_4 _ _ _ _ fun _ _ same => absurd same (by decide)]
  rfl

theorem bareDestination?_other {c : Char} (member : isSourceChar c) (noOpen : c ≠ '(')
    (noClose : c ≠ ')') :
    bareDestination? depth inside (c :: rest) = bareDestination? depth (c :: inside) rest := by
  obtain ⟨noSpace, noControl, -⟩ := isSpace_of_isSourceChar member
  have noEscape : ∀ (d : Char) (more : Text), c = '\\' → rest = d :: more → False :=
    fun _ _ same => absurd same (ne_of_isSourceChar member rfl)
  cases depth with
  | zero => simp [bareDestination?.eq_3 _ _ _ noEscape, noOpen, noClose, noSpace, noControl]
  | succ depth => simp [bareDestination?.eq_4 _ _ _ _ noEscape, noOpen, noClose, noSpace, noControl]

/-- A bare destination ends at the closing parenthesis that has no counterpart. -/
theorem bareDestination?_of_areBalanced {url : Text} (chars : ∀ c ∈ url, isSourceChar c)
    (balanced : areBalanced depth url) :
    bareDestination? depth inside (url ++ ')' :: rest) =
      some (inside.reverse ++ url, ')' :: rest) := by
  induction url generalizing depth inside with
  | nil =>
    obtain rfl : depth = 0 := by simpa [areBalanced] using balanced
    rw [List.nil_append, bareDestination?_end, List.append_nil]
  | cons c url ih =>
    have others := fun d member => chars d (.tail c member)
    have whole : inside.reverse ++ c :: url = (c :: inside).reverse ++ url := by simp
    rw [List.cons_append, whole]
    rw [areBalanced] at balanced
    split_ifs at balanced with isOpen isClose
    · obtain rfl := beq_iff_eq.mp isOpen
      obtain ⟨shallow, later⟩ := Bool.and_eq_true_iff.mp balanced
      rw [bareDestination?_open, if_neg (Nat.not_le_of_lt (of_decide_eq_true shallow))]
      exact ih _ _ others later
    · obtain rfl := beq_iff_eq.mp isClose
      obtain ⟨opened, later⟩ := Bool.and_eq_true_iff.mp balanced
      obtain ⟨depth, rfl⟩ := Nat.exists_eq_succ_of_ne_zero (bne_iff_ne.mp opened)
      rw [bareDestination?_close]
      exact ih _ _ others later
    · rw [bareDestination?_other _ _ _ (chars c List.mem_cons_self) (by simpa using isOpen)
        (by simpa using isClose)]
      exact ih _ _ others balanced

/-- A bare destination is a first part of what is ahead, and it is all of a text only if the
parentheses of the text are balanced. -/
theorem exists_of_bareDestination? {url destination left : Text}
    (chars : ∀ c ∈ url, isSourceChar c)
    (found : bareDestination? depth inside (url ++ [')']) = some (destination, left)) :
    ∃ more, destination = inside.reverse ++ more ∧ more ++ left = url ++ [')'] ∧
      (left = [')'] → areBalanced depth url) := by
  induction url generalizing depth inside with
  | nil =>
    cases depth with
    | zero =>
      rw [List.nil_append, bareDestination?_end] at found
      cases found
      exact ⟨[], (List.append_nil _).symm, rfl, fun _ => rfl⟩
    | succ depth =>
      rw [List.nil_append, bareDestination?_close, bareDestination?] at found
      cases found
  | cons c url ih =>
    have member := chars c List.mem_cons_self
    -- What the rest of the text answers is the answer, with the character in front.
    have longer {later : Nat} (found : bareDestination? later (c :: inside) (url ++ [')']) =
        some (destination, left))
        (balanced : areBalanced later url → areBalanced depth (c :: url)) :
        ∃ more, destination = inside.reverse ++ more ∧ more ++ left = c :: url ++ [')'] ∧
          (left = [')'] → areBalanced depth (c :: url)) := by
      obtain ⟨more, rfl, whole, ends⟩ := ih _ _ (fun d member => chars d (.tail c member)) found
      exact ⟨c :: more, by simp, congrArg (c :: ·) whole, fun last => balanced (ends last)⟩
    rw [List.cons_append] at found
    by_cases isOpen : c = '('
    · subst isOpen
      rw [bareDestination?_open] at found
      split_ifs at found with deep
      exact longer found fun balanced => by simpa [areBalanced] using ⟨by omega, balanced⟩
    by_cases isClose : c = ')'
    · subst isClose
      cases depth with
      | zero =>
        rw [bareDestination?_end] at found
        cases found
        exact ⟨[], (List.append_nil _).symm, rfl, by simp⟩
      | succ depth =>
        rw [bareDestination?_close] at found
        exact longer found fun balanced => by simpa [areBalanced] using balanced
    · rw [bareDestination?_other _ _ _ member isOpen isClose] at found
      exact longer found fun balanced => by simpa [areBalanced, isOpen, isClose] using balanced

end Destination

/-- A text without semicolons has no references. -/
theorem decodeReferences_of_not_mem {t : Text} (unended : ';' ∉ t) : decodeReferences t = t := by
  rw [decodeReferences]
  induction t with
  | nil => rfl
  | cons c t ih =>
    rw [List.mem_cons, not_or] at unended
    rw [decodeReferencesFrom, ih unended.2]
    split
    · cases found : characterReference? t with
      | none => rfl
      | some reference => exact absurd (mem_of_characterReference? found) unended.2
    · rfl

/-- Nothing in such characters means anything in a destination. -/
theorem plainText_of_isSourceChar {t : Text} (chars : ∀ c ∈ t, isSourceChar c) :
    plainText (trimAscii t) = t := by
  have absent {c : Char} (other : isSourceChar c = false) : c ∉ t := fun member =>
    Bool.noConfusion (other.symm.trans (chars c member))
  have trimmed : trimAscii t = t := by
    refine Text.trimBy_eq_self_iff.mpr ⟨Text.trimStartBy_eq_self_iff.mpr fun c first => ?_,
      Text.trimEndBy_eq_self_iff.mpr fun c last => ?_⟩
    · exact (isSpace_of_isSourceChar (chars c (List.mem_of_mem_head? first))).2.2
    · exact (isSpace_of_isSourceChar (chars c (List.mem_of_getLast? last))).2.2
  rw [trimmed, plainText, decodeReferences_of_not_mem (absent rfl),
    unescape_of_not_mem (absent rfl)]

namespace IsSource

variable {source : Text} (valid : IsSource source)
include valid

theorem not_mem {c : Char} (other : isSourceChar c = false) : c ∉ source := fun member =>
  Bool.noConfusion (other.symm.trans (valid.chars c member))

theorem destination?_eq (rest : Text) :
    destination? ((source ++ rest).dropWhile Ascii.isSpace) =
      bareDestination? 0 [] (source ++ rest) := by
  obtain ⟨c, others, rfl⟩ := List.exists_cons_of_ne_nil valid.nonempty
  have first := valid.chars c List.mem_cons_self
  have start : (c :: others ++ rest).dropWhile Ascii.isSpace = c :: others ++ rest :=
    List.dropWhile_cons_of_neg (by simp [(isSpace_of_isSourceChar first).1])
  rw [start, destination?]
  exact fun _ same => ne_of_isSourceChar first rfl (List.cons.inj same).1

/-- The source of an image is read as its target. -/
theorem inlineTarget?_eq (balanced : areBalanced 0 source) (rest : Text) :
    inlineTarget? (source ++ ')' :: rest) = some (⟨source, []⟩, rest) := by
  have found : destination? ((source ++ ')' :: rest).dropWhile Ascii.isSpace) =
      some (source, ')' :: rest) := by
    rw [valid.destination?_eq]
    exact bareDestination?_of_areBalanced 0 [] rest valid.chars balanced
  have none : plainText [] = [] := rfl
  have closed : (')' :: rest).dropWhile Ascii.isSpace = ')' :: rest := rfl
  simp only [inlineTarget?, found, Option.bind_eq_bind, Option.bind_some, closed, if_true,
    plainText_of_isSourceChar valid.chars, none]

/-- **A source is read as the target of its image exactly if its parentheses are balanced.** -/
theorem areBalanced_iff :
    areBalanced 0 source ↔ inlineTarget? (source ++ [')']) = some (⟨source, []⟩, []) := by
  refine ⟨fun balanced => valid.inlineTarget?_eq balanced [], fun found => ?_⟩
  simp only [inlineTarget?, valid.destination?_eq, Option.bind_eq_bind, Option.bind_eq_some_iff,
    Prod.exists] at found
  obtain ⟨destination, left, read, found⟩ := found
  obtain ⟨_, rfl, whole, balanced⟩ := exists_of_bareDestination? 0 [] valid.chars read
  have chars : ∀ c ∈ destination, isSourceChar c := by
    intro c member
    have inside : c ∈ source ++ [')'] := whole ▸ List.mem_append_left left member
    rcases List.mem_append.mp inside with inside | last
    · exact valid.chars c inside
    · exact List.mem_singleton.mp last ▸ rfl
  obtain rfl : destination = source := by
    rw [plainText_of_isSourceChar chars] at found
    split at found
    · simp only [Option.some.injEq, Prod.mk.injEq, Target.mk.injEq] at found
      exact found.1.1
    · cases found
  exact balanced (List.append_cancel_left whole)

end IsSource

end Markdown

end MarkdownDialects
