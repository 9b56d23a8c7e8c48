import MarkdownDialects.Proofs.Serialize.Behind

/-!
# Empty lines between fragments

Where a fragment is joined, the line feeds of both sides become at most one empty line.  If the
fragment begins with a line feed, spaces and tabs in front of the seam are dropped as well.  They
may have stood on a line of their own, and then the line feeds in front of them come to the seam
without being counted.  A join of texts with single empty lines has more than one empty line exactly
then (`Serialize.isCapped_join_iff`).
-/

namespace MarkdownDialects

namespace Serialize

/-- The text has no two empty lines in a row. -/
def IsCapped (t : Text) : Prop := ¬ Text.rep 3 '\n' <:+: t

instance : DecidablePred IsCapped := fun t => inferInstanceAs (Decidable (¬ Text.rep 3 '\n' <:+: t))

/-- The text without the line feeds at its end. -/
def withoutFeeds (t : Text) : Text := Text.trimEndBy (· == '\n') t

/-- The text without the spaces and tabs at its end. -/
def withoutGap (t : Text) : Text := Text.trimEndBy (fun c => c == ' ' || c == '\t') t

/-- The number of line feeds at the start of a text. -/
def leadingFeeds (t : Text) : Nat := t.length - (t.dropWhile (· == '\n')).length

/-- The number of line feeds at the end of a text. -/
def trailingFeeds (t : Text) : Nat := t.length - (withoutFeeds t).length

/-- The number of line feeds in front of the spaces and tabs in front of the line feeds at the end
of a text. -/
def hiddenFeeds (t : Text) : Nat := trailingFeeds (withoutGap (withoutFeeds t))

/-- Joining the fragment drops the spaces and tabs in front of the seam, and the line feeds in front
of them make more than one empty line together with those that are written. -/
def Uncovers (out piece : Text) : Prop :=
  0 < leadingFeeds piece ∧
    2 < hiddenFeeds out + min 2 (max (trailingFeeds out) (leadingFeeds piece))

instance (out piece : Text) : Decidable (Uncovers out piece) :=
  inferInstanceAs (Decidable (_ ∧ _))

/-- The last line of the fragment that is not empty, if it has one, is not of spaces and tabs
only. -/
def IsFirm (piece : Text) : Prop :=
  piece.dropWhile (· == '\n') = [] ∨
    ∃ c ∈ (withoutGap (withoutFeeds (piece.dropWhile (· == '\n')))).getLast?, c ≠ '\n'

instance : DecidablePred IsFirm := fun piece =>
  decidable_of_iff
    (piece.dropWhile (· == '\n') = [] ∨
      (withoutGap (withoutFeeds (piece.dropWhile (· == '\n')))).getLast?.any (· != '\n'))
    (or_congr_right (by simp [Option.any_eq_true]))

/-! ## Line feeds at the ends of a text -/

theorem withoutFeeds_append_trailing (t : Text) :
    withoutFeeds t ++ Text.rep (trailingFeeds t) '\n' = t := by
  obtain ⟨back, feeds, whole⟩ := Text.exists_trimEndBy_append (· == '\n') t
  have count : trailingFeeds t = back.length := by
    have lengths := congrArg List.length whole
    rw [List.length_append] at lengths
    rw [trailingFeeds, withoutFeeds]
    omega
  have same : back = Text.rep back.length '\n' :=
    List.eq_replicate_of_mem fun c member => beq_iff_eq.mp (feeds c member)
  rw [count, ← same]
  exact whole.symm

theorem leading_append_dropWhile (t : Text) :
    Text.rep (leadingFeeds t) '\n' ++ t.dropWhile (· == '\n') = t := by
  obtain ⟨n, body, rfl, bare⟩ := exists_feeds t
  have dropped : (Text.rep n '\n' ++ body).dropWhile (· == '\n') = body := by
    rw [List.dropWhile_append_of_pos (by simp), bare]
  have count : leadingFeeds (Text.rep n '\n' ++ body) = n := by
    rw [leadingFeeds, dropped]
    simp
  rw [count, dropped]

/-- What is left does not end with a line feed. -/
theorem withoutFeeds_eq_self_iff {t : Text} :
    withoutFeeds t = t ↔ ∀ c ∈ t.getLast?, c ≠ '\n' := by
  rw [withoutFeeds, Text.trimEndBy_eq_self_iff]
  simp

theorem getLast?_withoutFeeds (t : Text) : ∀ c ∈ (withoutFeeds t).getLast?, c ≠ '\n' :=
  withoutFeeds_eq_self_iff.mp (Text.trimEndBy_trimEndBy (fun _ feed => feed) t)

theorem trailingFeeds_eq_zero_iff {t : Text} :
    trailingFeeds t = 0 ↔ ∀ c ∈ t.getLast?, c ≠ '\n' := by
  rw [← withoutFeeds_eq_self_iff]
  constructor
  · intro none
    have whole := withoutFeeds_append_trailing t
    rwa [none, Text.rep, List.replicate_zero, List.append_nil] at whole
  · intro same
    rw [trailingFeeds, same, Nat.sub_self]

/-- How a fragment is joined, in terms of the line feeds at the seam. -/
theorem join_eq {piece : Text} (nonempty : piece ≠ []) (out : Text) :
    join out piece = seam out (leadingFeeds piece) ++ piece.dropWhile (· == '\n') := by
  have whole := leading_append_dropWhile piece
  have bare : (piece.dropWhile (· == '\n')).dropWhile (· == '\n') = piece.dropWhile (· == '\n') :=
    List.dropWhile_idempotent ..
  have joined := join_feeds bare (whole.symm ▸ nonempty) out
  rwa [whole] at joined

theorem seam_eq (out : Text) (n : Nat) :
    seam out n =
      if n = 0 ∧ trailingFeeds out = 0 then out
      else
        (if 0 < n then withoutGap (withoutFeeds out) else withoutFeeds out) ++
          Text.rep (min 2 (max (trailingFeeds out) n)) '\n' := rfl

/-! ## Capped texts -/

theorem IsCapped.of_isInfix {s t : Text} (capped : IsCapped t) (part : s <:+: t) : IsCapped s :=
  fun found => capped (found.trans part)

/-- At a character that is no line feed a text can be cut. -/
theorem isCapped_append_cons_iff {c : Char} (other : c ≠ '\n') (front rest : Text) :
    IsCapped (front ++ c :: rest) ↔ IsCapped front ∧ IsCapped rest := by
  have absent : c ∉ Text.rep 3 '\n' := fun member => other (List.eq_of_mem_replicate member)
  rw [IsCapped, Text.isInfix_append_cons_iff absent, not_or]
  rfl

theorem isCapped_nil : IsCapped [] := by decide

/-- Line feeds and something that does not begin with one. -/
theorem isCapped_feeds_append_iff {n : Nat} {body : Text}
    (bare : body.dropWhile (· == '\n') = body) :
    IsCapped (Text.rep n '\n' ++ body) ↔ n ≤ 2 ∧ IsCapped body := by
  have feeds : IsCapped (Text.rep n '\n') ↔ n ≤ 2 := by
    rw [IsCapped, ← Nat.not_lt, not_iff_not]
    constructor
    · intro found
      have long := found.length_le
      rwa [List.length_replicate, List.length_replicate] at long
    · intro several
      rw [← Nat.add_sub_of_le several, Text.rep, Text.rep, List.replicate_add]
      exact (List.prefix_append _ _).isInfix
  cases body with
  | nil => rw [List.append_nil, feeds, and_iff_left isCapped_nil]
  | cons c body =>
    have other : c ≠ '\n' := by
      simpa using Text.trimStartBy_eq_self_iff.mp bare c rfl
    have alone := isCapped_append_cons_iff other [] body
    rw [List.nil_append, and_iff_right isCapped_nil] at alone
    rw [isCapped_append_cons_iff other, feeds, alone]

/-- Behind something that does not end with a line feed nothing changes. -/
theorem isCapped_append_iff {front : Text} (ends : ∀ c ∈ front.getLast?, c ≠ '\n') (rest : Text) :
    IsCapped (front ++ rest) ↔ IsCapped front ∧ IsCapped rest := by
  rcases List.eq_nil_or_concat' front with rfl | ⟨front, c, rfl⟩
  · rw [List.nil_append, and_iff_right isCapped_nil]
  · have other : c ≠ '\n' := ends c List.getLast?_concat
    rw [List.append_assoc, List.singleton_append, isCapped_append_cons_iff other,
      isCapped_append_cons_iff other, and_iff_left isCapped_nil]

/-- What a fragment is put behind, together with the fragment. -/
theorem isCapped_seam_append_iff {out body : Text} (capped : IsCapped out)
    (bare : body.dropWhile (· == '\n') = body) (fragment : IsCapped body) (n : Nat) :
    IsCapped (seam out n ++ body) ↔
      ¬ (0 < n ∧ 2 < hiddenFeeds out + min 2 (max (trailingFeeds out) n)) := by
  have kept : IsCapped (withoutFeeds out) :=
    capped.of_isInfix (Text.trimEndBy_isPrefix out).isInfix
  rw [seam_eq]
  rcases Nat.eq_zero_or_pos n with rfl | leads
  · refine iff_of_true ?_ fun uncovers => (Nat.lt_irrefl 0 uncovers.1).elim
    split
    next plain =>
      rw [isCapped_append_iff (trailingFeeds_eq_zero_iff.mp plain.2)]
      exact ⟨capped, fragment⟩
    next =>
      rw [if_neg (Nat.lt_irrefl 0), List.append_assoc,
        isCapped_append_iff (getLast?_withoutFeeds out), isCapped_feeds_append_iff bare]
      exact ⟨kept, Nat.min_le_left _ _, fragment⟩
  · -- What is in front of the seam ends with the hidden line feeds.
    have front : withoutFeeds (withoutGap (withoutFeeds out)) ++ Text.rep (hiddenFeeds out) '\n' =
        withoutGap (withoutFeeds out) := withoutFeeds_append_trailing _
    have shown : IsCapped (withoutFeeds (withoutGap (withoutFeeds out))) :=
      kept.of_isInfix ((Text.trimEndBy_isPrefix _).trans (Text.trimEndBy_isPrefix _)).isInfix
    rw [if_neg fun none => leads.ne' none.1, if_pos leads, ← front, List.append_assoc,
      List.append_assoc, isCapped_append_iff (getLast?_withoutFeeds _), ← List.append_assoc,
      Text.rep, Text.rep, ← List.replicate_add, isCapped_feeds_append_iff bare,
      and_iff_right shown, and_iff_left fragment, ← Nat.not_lt, and_iff_right leads]

/-- **A join of capped texts is capped unless it uncovers line feeds.** -/
theorem isCapped_join_iff {out piece : Text} (capped : IsCapped out) (fragment : IsCapped piece) :
    IsCapped (join out piece) ↔ ¬ Uncovers out piece := by
  rcases eq_or_ne piece [] with rfl | nonempty
  · exact iff_of_true capped fun uncovers => absurd uncovers.1 (by decide)
  · have bare : (piece.dropWhile (· == '\n')).dropWhile (· == '\n') =
        piece.dropWhile (· == '\n') := List.dropWhile_idempotent ..
    have body : IsCapped (piece.dropWhile (· == '\n')) :=
      fragment.of_isInfix (List.dropWhile_suffix _).isInfix
    rw [join_eq nonempty]
    exact isCapped_seam_append_iff capped bare body _

/-! ## Whole lists of fragments -/

theorem joinAll_concat (front : List Text) (piece : Text) :
    joinAll (front ++ [piece]) = join (joinAll front) piece := List.foldl_concat ..

/-- A seam hides nothing if nothing was hidden in front of it. -/
theorem hiddenFeeds_seam {out : Text} (nothing : hiddenFeeds out = 0) (n : Nat) :
    hiddenFeeds (seam out n) = 0 := by
  have ended (front : Text) (m : Nat) :
      withoutFeeds (front ++ Text.rep m '\n') = withoutFeeds front :=
    Text.trimEndBy_append (fun c member => beq_iff_eq.mpr (List.eq_of_mem_replicate member)) front
  have bare : withoutFeeds (withoutGap (withoutFeeds out)) = withoutGap (withoutFeeds out) :=
    withoutFeeds_eq_self_iff.mpr (trailingFeeds_eq_zero_iff.mp nothing)
  have gapless : withoutGap (withoutGap (withoutFeeds out)) = withoutGap (withoutFeeds out) :=
    Text.trimEndBy_trimEndBy (fun _ gap => gap) _
  have feedless : withoutFeeds (withoutFeeds out) = withoutFeeds out :=
    Text.trimEndBy_trimEndBy (fun _ feed => feed) out
  rw [seam_eq]
  split
  · exact nothing
  · rw [hiddenFeeds, ended]
    split
    · rwa [bare, gapless]
    · rwa [feedless]

/-- Nothing is hidden where firm fragments were joined. -/
theorem hiddenFeeds_join {out piece : Text} (nothing : hiddenFeeds out = 0) (firm : IsFirm piece) :
    hiddenFeeds (join out piece) = 0 := by
  rcases eq_or_ne piece [] with rfl | nonempty
  · exact nothing
  rw [join_eq nonempty]
  rcases firm with feeds | ⟨c, last, other⟩
  · rw [feeds, List.append_nil]
    exact hiddenFeeds_seam nothing _
  · generalize piece.dropWhile (· == '\n') = body at last ⊢
    generalize seam out (leadingFeeds piece) = front
    have gap : withoutGap (withoutFeeds body) ≠ [] := by
      intro none
      rw [none] at last
      exact nomatch last
    have shown : withoutFeeds body ≠ [] := by
      intro none
      rw [none] at gap
      exact gap rfl
    have feedless : withoutFeeds (front ++ body) = front ++ withoutFeeds body :=
      Text.trimEndBy_append_of_ne_nil shown front
    have gapless : withoutGap (front ++ withoutFeeds body) =
        front ++ withoutGap (withoutFeeds body) :=
      Text.trimEndBy_append_of_ne_nil gap front
    rw [hiddenFeeds, feedless, gapless, trailingFeeds_eq_zero_iff,
      List.getLast?_append_of_ne_nil _ gap]
    intro d same
    exact Option.mem_unique last same ▸ other

theorem hiddenFeeds_joinAll {pieces : List Text} (firm : ∀ piece ∈ pieces, IsFirm piece) :
    hiddenFeeds (joinAll pieces) = 0 := by
  induction pieces using List.reverseRecOn with
  | nil => rfl
  | append_singleton front piece ih =>
    rw [joinAll_concat]
    exact hiddenFeeds_join (ih fun other member => firm other (List.mem_append_left _ member))
      (firm piece (List.mem_append_right _ List.mem_cons_self))

theorem not_uncovers_of_hiddenFeeds_eq_zero {out piece : Text} (nothing : hiddenFeeds out = 0) :
    ¬ Uncovers out piece := by
  rw [Uncovers, nothing]
  omega

theorem isCapped_joinAll_prefixes_iff {pieces : List Text}
    (capped : ∀ piece ∈ pieces, IsCapped piece) :
    (∀ front, front <+: pieces → IsCapped (joinAll front)) ↔
      ∀ front piece back, pieces = front ++ piece :: back → ¬ Uncovers (joinAll front) piece := by
  constructor
  · rintro all front piece back rfl
    have before : IsCapped (joinAll front) := all front (List.prefix_append _ _)
    have behind : IsCapped (join (joinAll front) piece) := by
      rw [← joinAll_concat]
      exact all _ ⟨back, by simp⟩
    exact (isCapped_join_iff before (capped piece (by simp))).mp behind
  · intro covered front
    induction front using List.reverseRecOn with
    | nil => exact fun _ => isCapped_nil
    | append_singleton front piece ih =>
      rintro ⟨back, rfl⟩
      have before : IsCapped (joinAll front) := ih ⟨piece :: back, by simp⟩
      rw [joinAll_concat, isCapped_join_iff before (capped piece (by simp))]
      exact covered front piece back (by simp)

end Serialize

open Serialize

/-- **How many empty lines a document has.**  Fragments with single empty lines, joined one after
the other, have single empty lines at every stage iff no join uncovers hidden line feeds.  None does
if no fragment ends with spaces and tabs that stand behind a line feed or alone. -/
theorem isCapped_joinAll {pieces : List Text} (capped : ∀ piece ∈ pieces, IsCapped piece) :
    ((∀ front, front <+: pieces → IsCapped (joinAll front)) ↔
        ∀ front piece back, pieces = front ++ piece :: back → ¬ Uncovers (joinAll front) piece) ∧
      ((∀ piece ∈ pieces, IsFirm piece) → IsCapped (joinAll pieces)) := by
  have stages := isCapped_joinAll_prefixes_iff capped
  refine ⟨stages, fun firm => ?_⟩
  refine stages.mpr (fun front piece back whole => ?_) pieces List.prefix_rfl
  refine not_uncovers_of_hiddenFeeds_eq_zero (hiddenFeeds_joinAll fun other member => firm other ?_)
  exact whole ▸ List.mem_append_left _ member

/-- Two blocks between lines of text. -/
theorem isCapped_joinAll_of_blocks :
    (∀ piece ∈ ["Intro".toList, block "# One".toList, block "two".toList, "  three\n".toList],
      IsCapped piece) ∧
    IsCapped
      (joinAll ["Intro".toList, block "# One".toList, block "two".toList, "  three\n".toList]) := by
  have capped : ∀ piece ∈
      ["Intro".toList, block "# One".toList, block "two".toList, "  three\n".toList],
      IsCapped piece := by
    decide
  have firm : ∀ piece ∈
      ["Intro".toList, block "# One".toList, block "two".toList, "  three\n".toList],
      IsFirm piece := by
    decide
  exact ⟨capped, (isCapped_joinAll capped).2 firm⟩

/-- Between two line breaks and a block stand the spaces of the second break, which are dropped, and
the end of the first. -/
theorem isCapped_joinAll_needs_covered :
    (∀ piece ∈ ["a".toList, "  \n".toList, "  \n".toList, block "b".toList], IsCapped piece) ∧
      joinAll ["a".toList, "  \n".toList, "  \n".toList, block "b".toList] =
        "a  \n\n\nb\n\n".toList ∧
      ¬ IsCapped (joinAll ["a".toList, "  \n".toList, "  \n".toList, block "b".toList]) := by
  decide

end MarkdownDialects
