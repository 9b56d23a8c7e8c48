import MarkdownDialects.Proofs.Markdown.CodeSpan
import MarkdownDialects.Proofs.Text.Trim
import MarkdownDialects.Serialize.Code

/-!
# Writing code spans

The delimiters around code are as long as none of its runs of backticks, and spaces keep its ends
apart from them.  So a code span is read back as its code, with a space for each line end
(`Serialize.codeSpan?_inlineCode`).  Only white space between two spaces loses them: it gets no
spaces to lose, though it is not all spaces.
-/

namespace MarkdownDialects

namespace Serialize

open Markdown (closing? codeSpan?)

/-- Code as it stands on one line: line ends are spaces. -/
def oneLine (code : Text) : Text := code.map fun c => if c == '\r' || c == '\n' then ' ' else c

/-- White space between two spaces that is not all spaces. -/
def isHollow (code : Text) : Bool :=
  code.head? == some ' ' && code.getLast? == some ' ' && Text.isAllBlank code && code.any (· != ' ')

/-- What is read back of code on one line: all of it, but for a space at each end of hollow code. -/
def readBack (code : Text) : Text := if isHollow code then code.tail.dropLast else code

/-- What stands between the delimiters of a code span. -/
def padded (code : Text) : Text := if needsPadding code then ' ' :: code ++ [' '] else code

theorem inlineCode_eq {code : Text} (nonempty : code ≠ []) :
    inlineCode code = Text.rep (delimiterWidth (oneLine code)) '`' ++ padded (oneLine code) ++
      Text.rep (delimiterWidth (oneLine code)) '`' := by
  have shown : (oneLine code).isEmpty = false := by simpa [oneLine] using nonempty
  have read : inlineCode code = if (oneLine code).isEmpty then []
      else Text.rep (delimiterWidth (oneLine code)) '`' ++
        (if needsPadding (oneLine code) then [' '] else []) ++ oneLine code ++
        (if needsPadding (oneLine code) then [' '] else []) ++
        Text.rep (delimiterWidth (oneLine code)) '`' := rfl
  rw [read, shown, padded, if_neg Bool.false_ne_true]
  split <;> simp

/-! ## Runs of backticks -/

theorem backtickRunsFrom_ticks (n run : Nat) (t : Text) :
    backtickRunsFrom n (Text.rep run '`' ++ t) = backtickRunsFrom (n + run) t := by
  induction run generalizing n with
  | zero => rfl
  | succ run ih =>
    rw [Text.rep, List.replicate_succ, List.cons_append, backtickRunsFrom, if_pos rfl, ih]
    congr 1
    omega

theorem backtickRuns_ticks (run : Nat) {back : Text} (ends : back.head? ≠ some '`') :
    backtickRuns (Text.rep (run + 1) '`' ++ back) = (run + 1) :: backtickRuns back := by
  rw [backtickRuns, backtickRunsFrom_ticks, Nat.zero_add]
  cases back with
  | nil => rfl
  | cons c back =>
    have other : c ≠ '`' := by simpa using ends
    simp [backtickRunsFrom, backtickRuns, other]

theorem backtickRuns_cons {c : Char} (other : c ≠ '`') (t : Text) :
    backtickRuns (c :: t) = backtickRuns t := by
  rw [backtickRuns, backtickRunsFrom, if_neg other, if_pos rfl, backtickRuns]

theorem backtickRuns_space (t : Text) : backtickRuns (t ++ [' ']) = backtickRuns t := by
  have from_ (n : Nat) : backtickRunsFrom n (t ++ [' ']) = backtickRunsFrom n t := by
    induction t generalizing n with
    | nil => simp [backtickRunsFrom]
    | cons c t ih => simp [backtickRunsFrom, ih]
  exact from_ 0

theorem backtickRuns_padded (code : Text) : backtickRuns (padded code) = backtickRuns code := by
  unfold padded
  split
  · rw [List.cons_append, backtickRuns_cons (by decide), backtickRuns_space]
  · rfl

/-! ## Delimiters -/

/-- The search ends outside the list: each number found in it leaves fewer to come. -/
theorem smallestFrom_not_mem {taken : List Nat} {fuel n : Nat}
    (enough : (taken.filter (n ≤ ·)).length ≤ fuel) : smallestFrom taken fuel n ∉ taken := by
  induction fuel generalizing n with
  | zero =>
    intro member
    have none := List.eq_nil_of_length_eq_zero (Nat.le_zero.mp enough)
    exact List.filter_eq_nil_iff.mp none n member (by simp)
  | succ fuel ih =>
    rw [smallestFrom]
    split
    · rename_i found
      have later : taken.filter (n + 1 ≤ ·) = (taken.filter (n ≤ ·)).filter (n + 1 ≤ ·) := by
        rw [List.filter_filter]
        refine List.filter_congr fun m _ => ?_
        simp
        omega
      have fewer : (taken.filter (n + 1 ≤ ·)).length < (taken.filter (n ≤ ·)).length := by
        rw [later, List.length_filter_lt_length_iff_exists]
        exact ⟨n, by simpa using found, by simp⟩
      exact ih (by omega)
    · rename_i free
      simpa using free

theorem le_smallestFrom (taken : List Nat) (fuel n : Nat) : n ≤ smallestFrom taken fuel n := by
  induction fuel generalizing n with
  | zero => exact Nat.le_refl n
  | succ fuel ih =>
    rw [smallestFrom]
    split
    · exact Nat.le_of_succ_le (ih (n + 1))
    · exact Nat.le_refl n

theorem delimiterWidth_not_mem (code : Text) : delimiterWidth code ∉ backtickRuns code :=
  smallestFrom_not_mem (List.length_filter_le _ _)

theorem delimiterWidth_ne_zero (code : Text) : delimiterWidth code ≠ 0 :=
  Nat.ne_of_gt (le_smallestFrom _ _ 1)

/-- Code that does not end with a backtick goes up to a run that is as long as none in it. -/
theorem closing?_append {n : Nat} {code : Text} (last : code.getLast? ≠ some '`')
    (absent : n ∉ backtickRuns code) (positive : n ≠ 0) :
    closing? n (code ++ Text.rep n '`') = some (code, []) := by
  -- The code is taken off run by run, and between the runs character by character.
  induction long : code.length using Nat.strong_induction_on generalizing code with
  | _ size ih =>
    obtain ⟨run, back, rfl, ends⟩ := Markdown.exists_ticks code
    cases run with
    | succ run =>
      have shown : back ≠ [] := by
        rintro rfl
        exact last (by simp [Text.rep, List.getLast?_replicate])
      rw [List.getLast?_append_of_ne_nil _ shown] at last
      rw [backtickRuns_ticks run ends, List.mem_cons, not_or] at absent
      have later := ih back.length (by simp [← long]) last absent.2 rfl
      have behind : (back ++ Text.rep n '`').head? ≠ some '`' := by
        rwa [List.head?_append_of_ne_nil _ shown]
      rw [List.append_assoc, Markdown.closing?_ticks behind, if_neg (Ne.symm absent.1), later]
      rfl
    | zero =>
      cases back with
      | nil =>
        obtain ⟨m, rfl⟩ := Nat.exists_eq_succ_of_ne_zero positive
        have closed := @Markdown.closing?_ticks [] nofun (m + 1) m
        rwa [if_pos rfl, List.append_nil] at closed
      | cons c rest =>
        have other : c ≠ '`' := by simpa using ends
        have shorter : rest.length < size := by simp [← long]
        have final : rest.getLast? ≠ some '`' := fun tick =>
          last (by simp [List.getLast?_cons, tick])
        have clean : n ∉ backtickRuns rest := by
          rwa [← backtickRuns_cons other]
        have later := ih rest.length shorter final clean rfl
        have whole : Text.rep 0 '`' ++ c :: rest ++ Text.rep n '`' =
            c :: (rest ++ Text.rep n '`') := rfl
        rw [whole, Markdown.closing?_cons n other, later]
        rfl

/-! ## Ends -/

section Padded

variable (code : Text)

theorem padded_head? : (padded code).head? ≠ some '`' := by
  unfold padded
  split
  · simp
  · rename_i unpadded
    simp only [needsPadding, Bool.or_eq_true, not_or, beq_iff_eq] at unpadded
    exact unpadded.1.1

theorem padded_getLast? : (padded code).getLast? ≠ some '`' := by
  unfold padded
  split
  · simp [List.getLast?_cons]
  · rename_i unpadded
    simp only [needsPadding, Bool.or_eq_true, not_or, beq_iff_eq] at unpadded
    exact unpadded.1.2

/-- Code that is padded is not all spaces. -/
theorem exists_of_needsPadding {code : Text} (padding : needsPadding code) :
    ∃ c ∈ code, c ≠ ' ' := by
  simp only [needsPadding, Bool.or_eq_true, Bool.and_eq_true, beq_iff_eq, Bool.not_eq_true']
    at padding
  rcases padding with (first | last) | ⟨-, shown⟩
  · exact ⟨'`', List.mem_of_mem_head? first, by decide⟩
  · exact ⟨'`', List.mem_of_getLast? last, by decide⟩
  · rw [Text.isAllBlank, List.all_eq_false] at shown
    obtain ⟨c, member, solid⟩ := shown
    refine ⟨c, member, ?_⟩
    rintro rfl
    exact solid rfl

end Padded

theorem lineEnd_not_mem_oneLine (code : Text) : '\n' ∉ oneLine code ∧ '\r' ∉ oneLine code := by
  have kept {d : Char} (lineEnd : d = '\n' ∨ d = '\r') : d ∉ oneLine code := by
    intro member
    obtain ⟨c, -, same⟩ := List.mem_map.mp member
    split at same
    · subst same
      rcases lineEnd with space | space <;> exact absurd space (by decide)
    · rename_i other
      subst same
      rcases lineEnd with rfl | rfl <;> exact other rfl
  exact ⟨kept (.inl rfl), kept (.inr rfl)⟩

/-- What is read in a code span on one line. -/
theorem codeText_of_not_mem {inside : Text} (noFeed : '\n' ∉ inside) (noReturn : '\r' ∉ inside) :
    Markdown.Reader.codeText inside =
      if inside.head? == some ' ' && inside.getLast? == some ' ' && inside.any (· != ' ') then
        inside.tail.dropLast
      else inside := by
  have same : (inside.map fun c => if c == '\n' || c == '\r' then ' ' else c) = inside := by
    refine (List.map_congr_left fun c member => ?_).trans (List.map_id inside)
    have other : ¬ (c == '\n' || c == '\r') := by
      rw [Bool.or_eq_true, beq_iff_eq, beq_iff_eq, not_or]
      exact ⟨fun feed => noFeed (feed ▸ member), fun back => noReturn (back ▸ member)⟩
    exact if_neg other
  simp only [Markdown.Reader.codeText, same, List.drop_one]

/-- Padding is taken away again, and hollow code loses a space at each end. -/
theorem codeText_padded {code : Text} (noFeed : '\n' ∉ code) (noReturn : '\r' ∉ code) :
    Markdown.Reader.codeText (padded code) = readBack code := by
  unfold padded readBack
  split
  next padding =>
    obtain ⟨c, member, solid⟩ := exists_of_needsPadding padding
    have shown : isHollow code = false := by
      rw [Bool.eq_false_iff]
      intro hollow
      simp only [isHollow, Bool.and_eq_true, beq_iff_eq] at hollow
      obtain ⟨⟨⟨first, last⟩, blank⟩, -⟩ := hollow
      simp [needsPadding, first, last, blank] at padding
    have last : (' ' :: code ++ [' ']).getLast? = some ' ' := List.getLast?_concat
    have stripped : (' ' :: code ++ [' ']).tail.dropLast = code := by simp
    rw [codeText_of_not_mem (by simp [noFeed]) (by simp [noReturn]), shown, last, stripped,
      if_pos (by simpa using ⟨c, member, solid⟩)]
    rfl
  next unpadded =>
    have same : (code.head? == some ' ' && code.getLast? == some ' ' && code.any (· != ' ')) =
        isHollow code := by
      cases blank : Text.isAllBlank code with
      | true => simp [isHollow, blank]
      | false =>
        have ends : (code.head? == some ' ' && code.getLast? == some ' ') = false := by
          simp only [needsPadding, blank, Bool.not_false, Bool.and_true, Bool.or_eq_true,
            not_or] at unpadded
          exact Bool.eq_false_iff.mpr unpadded.2
        rw [isHollow, ends]
        rfl
    rw [codeText_of_not_mem noFeed noReturn, same]

theorem readBack_eq_self_iff {code : Text} (nonempty : code ≠ []) :
    readBack code = code ↔ isHollow code = false := by
  unfold readBack
  split
  next hollow =>
    have positive := List.length_pos_iff.mpr nonempty
    refine iff_of_false (fun same => ?_) (by simp [hollow])
    have size := congrArg List.length same
    rw [List.length_dropLast, List.length_tail] at size
    omega
  next solid => simpa using solid

/-- **A code span is read back as its code**, on one line: the span is all that is written, and what
it holds is the code exactly if the code is not hollow.  The renderer reads the same, if the
delimiters are not too long for it. -/
theorem codeSpan?_inlineCode {code : Text} (nonempty : code ≠ []) :
    codeSpan? (inlineCode code) = some (readBack (oneLine code), []) ∧
      (readBack (oneLine code) = oneLine code ↔ isHollow (oneLine code) = false) ∧
      (delimiterWidth (oneLine code) ≤ Markdown.Reader.maxTicks → ∀ linkify references,
        (Markdown.Inline.ofText linkify (inlineCode code)).run references =
          ([.code (readBack (oneLine code))], references)) := by
  obtain ⟨noFeed, noReturn⟩ := lineEnd_not_mem_oneLine code
  have shown : oneLine code ≠ [] := by simpa [oneLine] using nonempty
  have shape := inlineCode_eq nonempty
  have content := codeText_padded noFeed noReturn
  have front := padded_head? (oneLine code)
  have back := padded_getLast? (oneLine code)
  have absent := delimiterWidth_not_mem (oneLine code)
  have positive := delimiterWidth_ne_zero (oneLine code)
  rw [← backtickRuns_padded] at absent
  generalize delimiterWidth (oneLine code) = width at shape absent positive ⊢
  have closed := closing?_append back absent positive
  have behind : (padded (oneLine code) ++ Text.rep width '`').head? ≠ some '`' := by
    have first : padded (oneLine code) ≠ [] := by
      unfold padded
      split
      · simp
      · exact shown
    rwa [List.head?_append_of_ne_nil _ first]
  have ticks := Markdown.takeWhile_ticks behind width
  have rest := Markdown.dropWhile_ticks behind width
  rw [← List.append_assoc, ← shape] at ticks rest
  have span : codeSpan? (inlineCode code) = some (readBack (oneLine code), []) := by
    simp only [codeSpan?, ticks, rest, List.length_replicate, if_neg positive, closed,
      Option.map_some, content]
  refine ⟨span, readBack_eq_self_iff shown, fun short linkify references => ?_⟩
  refine Markdown.Inline.ofText_codeSpan linkify ?_ span ?_ references
  · refine Text.trimEndBy_eq_self_iff.mpr fun c last => ?_
    obtain ⟨m, rfl⟩ := Nat.exists_eq_succ_of_ne_zero positive
    rw [shape, List.getLast?_append_of_ne_nil _ (by simp), List.getLast?_replicate] at last
    exact Option.some.inj last ▸ rfl
  · rwa [ticks, List.length_replicate]

/-- Runs of one and of two backticks, one of them at the end, and a line end. -/
theorem codeSpan?_inlineCode_of_runs :
    "a ` b\n``".toList ≠ [] ∧
      inlineCode "a ` b\n``".toList = "``` a ` b `` ```".toList ∧
      codeSpan? (inlineCode "a ` b\n``".toList) = some ("a ` b ``".toList, []) ∧
      delimiterWidth (oneLine "a ` b\n``".toList) ≤ Markdown.Reader.maxTicks ∧
      (Markdown.Inline.ofText true (inlineCode "a ` b\n``".toList)).run ⟨[], 0⟩ =
        ([.code "a ` b ``".toList], ⟨[], 0⟩) := by
  have nonempty : "a ` b\n``".toList ≠ [] := by decide
  have short : delimiterWidth (oneLine "a ` b\n``".toList) ≤ Markdown.Reader.maxTicks := by decide
  have same : readBack (oneLine "a ` b\n``".toList) = "a ` b ``".toList := by decide
  obtain ⟨span, -, renderer⟩ := codeSpan?_inlineCode nonempty
  rw [same] at span renderer
  exact ⟨nonempty, by decide, span, short, renderer short true ⟨[], 0⟩⟩

/-- **Hollow code loses its spaces.**  A no-break space between two spaces is read back alone. -/
theorem codeSpan?_inlineCode_hollow :
    codeSpan? (inlineCode " \u00a0 ".toList) ≠ some (oneLine " \u00a0 ".toList, []) := by
  decide +kernel

end Serialize

end MarkdownDialects
