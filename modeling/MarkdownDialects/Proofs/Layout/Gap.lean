import MarkdownDialects.Proofs.Layout.Tighten

/-!
# Where a text has gaps

A gap, told by its place in a text: an empty line below an item with content and above an item of
the same family (`Tighten.IsGapAt`).  Tightening goes through the lines once and looks at the lines
as they were, and what it leaves is every line of the text that is at no gap
(`Tighten.dropGaps_eq_withoutGaps`).  So the texts that tightening leaves alone are those without a
gap (`Tighten.withoutGaps_eq_self_iff`), and a tightened text is such a text
(`tighten_removes_gaps`).
-/

namespace MarkdownDialects

namespace Tighten

/-- An item of a family with at least two characters behind its marker. -/
def IsItemWithContent (family : ListFamily) (line : Text) : Prop :=
  Line.listMarker? line = some family ∧
    ∃ after, Line.splitMarker? (Text.trimStart line) = some (family, after) ∧ 2 ≤ after.length

/-- The line at a place is a gap inside a list: it is empty, the line before it is an item with
content, and the line after it is an item of the same family. -/
def IsGapAt (ls : List Text) (place : Nat) : Prop :=
  ls[place]? = some [] ∧ ∃ above before next family,
    place = above + 1 ∧ ls[above]? = some before ∧ ls[place + 1]? = some next ∧
      IsItemWithContent family before ∧ Line.listMarker? next = some family

theorem itemWithContent?_eq_some_iff {line : Text} {family : ListFamily} :
    itemWithContent? line = some family ↔ IsItemWithContent family line := by
  unfold IsItemWithContent itemWithContent? Line.listMarker?
  cases Line.splitMarker? (Text.trimStart line) with
  | none => simp
  | some found =>
    obtain ⟨own, after⟩ := found
    cases Line.startsBlank after <;> grind

theorem not_isGapAt_zero (ls : List Text) : ¬ IsGapAt ls 0 := by
  rintro ⟨_, above, _, _, _, first, _⟩
  exact Nat.succ_ne_zero above first.symm

theorem isGapAt_succ_iff {ls : List Text} {above : Nat} :
    IsGapAt ls (above + 1) ↔
      ls[above + 1]? = some [] ∧ ls[above]?.any (isGap · ls[above + 1 + 1]?) := by
  rw [IsGapAt, isGap_iff]
  simp only [familyBefore, familyAfter, Option.bind_eq_some_iff, itemWithContent?_eq_some_iff]
  refine and_congr_right fun _ => ⟨?_, ?_⟩
  · rintro ⟨_, before, next, family, same, found, follows, item, marked⟩
    obtain rfl := Nat.succ.inj same
    exact ⟨family, ⟨before, found, item⟩, next, follows, marked⟩
  · rintro ⟨family, ⟨before, found, item⟩, next, follows, marked⟩
    exact ⟨above, before, next, family, rfl, found, follows, item, marked⟩

instance (ls : List Text) : DecidablePred (IsGapAt ls)
  | 0 => isFalse (not_isGapAt_zero ls)
  | _ + 1 => decidable_of_iff' _ isGapAt_succ_iff

/-- The lines that are at no gap, in order. -/
def withoutGaps (ls : List Text) : List Text :=
  (ls.zipIdx.filter fun (_, place) => ¬ IsGapAt ls place).map Prod.fst

theorem isGapAt_append_iff (front : List Text) (line : Text) (rest : List Text) :
    IsGapAt (front ++ line :: rest) front.length ↔
      line.isEmpty && front.getLast?.any (isGap · rest.head?) := by
  cases front using List.reverseRecOn with
  | nil => simp [not_isGapAt_zero]
  | append_singleton front before =>
    rw [List.append_assoc, List.singleton_append, List.length_append, List.length_singleton,
      isGapAt_succ_iff, List.getLast?_concat]
    have behind : (front ++ before :: line :: rest)[front.length + 1 + 1]? = rest.head? := by
      rw [Nat.add_assoc, List.getElem?_append_right (Nat.le_add_right _ _), Nat.add_sub_cancel_left,
        List.head?_eq_getElem?]
      rfl
    rw [behind]
    simp

/-- Tightening decides on the lines as they were, whatever it has dropped before. -/
theorem dropGaps_eq_filter (front rest : List Text) :
    dropGaps front.getLast? rest =
      ((rest.zipIdx front.length).filter fun (_, place) =>
        ¬ IsGapAt (front ++ rest) place).map Prod.fst := by
  -- The lines before the place that is reached are those that were there, not those that are left.
  induction rest generalizing front with
  | nil => rfl
  | cons line rest ih =>
    have later := ih (front ++ [line])
    rw [List.getLast?_concat, List.length_append, List.length_singleton, List.append_assoc,
      List.singleton_append] at later
    have test := isGapAt_append_iff front line rest
    rw [dropGaps, later, List.zipIdx_cons, List.filter_cons]
    by_cases gap : IsGapAt (front ++ line :: rest) front.length
    · rw [if_pos (test.mp gap), if_neg (by simpa using gap)]
    · rw [if_neg (mt test.mpr gap), if_pos (decide_eq_true gap)]
      rfl

/-- **Tightening keeps the lines that are at no gap**, and no others. -/
theorem dropGaps_eq_withoutGaps (ls : List Text) : dropGaps none ls = withoutGaps ls :=
  dropGaps_eq_filter [] ls

theorem withoutGaps_eq_self_iff {ls : List Text} :
    withoutGaps ls = ls ↔ ∀ place, ¬ IsGapAt ls place := by
  constructor
  · intro same place gap
    have length : (ls.zipIdx.filter fun (_, place) => ¬ IsGapAt ls place).length =
        ls.zipIdx.length := by
      rw [List.length_zipIdx, ← List.length_map Prod.fst]
      exact congrArg List.length same
    have member : ([], place) ∈ ls.zipIdx := List.mem_zipIdx_iff_getElem?.mpr gap.1
    exact of_decide_eq_true (List.length_filter_eq_length_iff.mp length _ member) gap
  · intro tight
    have all : (ls.zipIdx.filter fun (_, place) => ¬ IsGapAt ls place) = ls.zipIdx :=
      List.filter_eq_self.mpr fun (_, place) _ => decide_eq_true (tight place)
    rw [withoutGaps, all, List.zipIdx_map_fst]

end Tighten

/-- **Tightening removes the gaps of a text.**  Of its lines it keeps those that are at no gap, in
order; no line of what it leaves is at a gap; so tightening again changes nothing. -/
theorem tighten_removes_gaps (t : Text) :
    Text.lines (tighten t) = Tighten.withoutGaps (Text.lines t) ∧
      (∀ place, ¬ Tighten.IsGapAt (Text.lines (tighten t)) place) ∧
      tighten (tighten t) = tighten t := by
  have tight : ∀ place, ¬ Tighten.IsGapAt (Text.lines (tighten t)) place := by
    rw [← Tighten.withoutGaps_eq_self_iff, ← Tighten.dropGaps_eq_withoutGaps, lines_tighten,
      Tighten.dropGaps_dropGaps]
  refine ⟨?_, tight, ?_⟩
  · rw [lines_tighten, Tighten.dropGaps_eq_withoutGaps]
  · rw [tighten.eq_def (tighten t), Tighten.dropGaps_eq_withoutGaps,
      Tighten.withoutGaps_eq_self_iff.mpr tight]
    exact List.intercalate_splitOn '\n'

/-- The families of a marker of two digits and of one before an ideographic space, an item without
content, a line of white space and an empty line at each end. -/
example :
    Tighten.withoutGaps (Text.lines "\n- a\n\n*\u3000b\n\n- \n\n12. c\n\n3. d\n \n4. e\n".toList) =
      Text.lines "\n- a\n*\u3000b\n- \n\n12. c\n3. d\n \n4. e\n".toList := by decide

end MarkdownDialects
