import Mathlib.Data.List.TakeWhile
import MarkdownDialects.Proofs.Line.Kind
import MarkdownDialects.Proofs.Text.Lines

/-!
# Counting code fences

How many lines of a text open or close a fenced block, and how that number adds up over parts that
are put together.  Only the start of a line decides whether it is a fence delimiter, so behind an
ordinary character the rest of its line does not count (`Fence.lineCount_append_of_isSolid`).  The
first line of a part belongs to the line it is put into; its other lines are its own, and
`Fence.laterCount` counts them.
-/

namespace MarkdownDialects

namespace Fence

/-- How often a character is repeated at the start of a text. -/
theorem le_runLength_iff {mark : Char} {n : Nat} {t : Text} :
    n ≤ runLength mark t ↔ Text.rep n mark <+: t := by
  unfold runLength
  induction t generalizing n with
  | nil => cases n <;> simp [List.replicate_succ]
  | cons c t ih =>
    cases n with
    | zero => simp
    | succ n =>
      rw [Text.rep, List.replicate_succ, List.cons_prefix_cons, ← ih]
      by_cases same : c = mark
      · rw [List.takeWhile_cons_of_pos (by simp [same]), List.length_cons]
        simp [same]
      · rw [List.takeWhile_cons_of_neg (by simp [same])]
        simp [Ne.symm same]

/-- A run of a shown character begins a trimmed text if it begins the text. -/
theorem isPrefix_trimEnd_iff {mark : Char} (shown : Text.isBlank mark = false) {n : Nat}
    {t : Text} : Text.rep n mark <+: Text.trimEnd t ↔ Text.rep n mark <+: t := by
  constructor
  · exact fun found => found.trans (Text.trimEndBy_isPrefix t)
  · rintro ⟨rest, rfl⟩
    induction n with
    | zero => exact List.nil_prefix
    | succ n ih =>
      rw [Text.rep, List.replicate_succ, List.cons_append, Text.trimEnd, Text.trimEndBy_cons shown,
        List.cons_prefix_cons]
      exact ⟨rfl, ih⟩

/-- A character that is neither white space nor the mark of a fence. -/
def isOrdinary (c : Char) : Bool := !Text.isBlank c && c != '`' && c != '~'

/-- How many lines of a text are fence delimiters. -/
def lineCount (t : Text) : Nat := (Text.lines t).countP Line.isFenceDelimiter

/-- How many lines of a text are fence delimiters, not counting its first line. -/
def laterCount (t : Text) : Nat := (Text.lines t).tail.countP Line.isFenceDelimiter

end Fence

namespace Line

open Fence

/-- A fence delimiter begins, behind its indentation, with three of the same mark. -/
theorem isFenceDelimiter_iff {line : Text} :
    isFenceDelimiter line ↔ ∃ mark ∈ ['`', '~'], Text.rep 3 mark <+: Text.trimStart line := by
  have run {mark : Char} (shown : Text.isBlank mark = false) :
      3 ≤ runLength mark (Text.trim line) ↔ Text.rep 3 mark <+: Text.trimStart line :=
    le_runLength_iff.trans (isPrefix_trimEnd_iff shown)
  simp only [isFenceDelimiter, ofLine?, List.findSome?_isSome_iff, Option.isSome_ite]
  constructor
  · rintro ⟨mark, member, long⟩
    rcases List.mem_pair.mp member with rfl | rfl
    · exact ⟨_, member, (run (by decide)).mp long⟩
    · exact ⟨_, member, (run (by decide)).mp long⟩
  · rintro ⟨mark, member, found⟩
    rcases List.mem_pair.mp member with rfl | rfl
    · exact ⟨_, member, (run (by decide)).mpr found⟩
    · exact ⟨_, member, (run (by decide)).mpr found⟩

theorem not_isFenceDelimiter_of_isBlank {line : Text} (blank : isBlank line) :
    ¬ isFenceDelimiter line := by
  have nothing : Text.trimStart line = [] :=
    List.dropWhile_eq_nil_iff.mpr (List.all_eq_true.mp blank)
  rw [isFenceDelimiter_iff, nothing]
  rintro ⟨mark, _, found⟩
  exact absurd (List.prefix_nil.mp found) (by simp)

/-- More text behind a fence delimiter leaves it one. -/
theorem isFenceDelimiter_append {line : Text} (fence : isFenceDelimiter line) (rest : Text) :
    isFenceDelimiter (line ++ rest) := by
  obtain ⟨mark, member, found⟩ := isFenceDelimiter_iff.mp fence
  have shown : (Text.trimStart line).isEmpty = false := by
    rw [List.isEmpty_eq_false_iff]
    intro nothing
    exact absurd (List.prefix_nil.mp (nothing ▸ found)) (by simp)
  refine isFenceDelimiter_iff.mpr ⟨mark, member, ?_⟩
  rw [Text.trimStart, Text.trimStartBy, List.dropWhile_append, if_neg (by simp [shown])]
  exact found.trans (List.prefix_append _ rest)

/-- Behind an ordinary character nothing makes a line a fence delimiter. -/
theorem isFenceDelimiter_append_cons {c : Char} (ordinary : isOrdinary c) (front rest : Text) :
    isFenceDelimiter (front ++ c :: rest) = isFenceDelimiter front := by
  simp only [isOrdinary, Bool.and_eq_true, Bool.not_eq_true', bne_iff_ne, and_assoc] at ordinary
  obtain ⟨shown, noTick, noTilde⟩ := ordinary
  have started : Text.trimStart (front ++ c :: rest) = Text.trimStart front ++ c :: rest := by
    rw [Text.trimStart, Text.trimStartBy, List.dropWhile_append,
      List.dropWhile_cons_of_neg (by simp [shown])]
    split
    · rename_i nothing
      rw [Text.trimStart, Text.trimStartBy, List.isEmpty_iff.mp nothing, List.nil_append]
    · rfl
  rw [Bool.eq_iff_iff, isFenceDelimiter_iff, isFenceDelimiter_iff, started]
  constructor
  · rintro ⟨mark, member, found⟩
    refine ⟨mark, member, Text.isPrefix_of_isPrefix_append_cons ?_ found⟩
    intro inside
    obtain rfl := List.eq_of_mem_replicate inside
    rcases List.mem_pair.mp member with rfl | rfl
    · exact noTick rfl
    · exact noTilde rfl
  · rintro ⟨mark, member, found⟩
    exact ⟨mark, member, found.trans (List.prefix_append _ _)⟩

end Line

namespace Fence

/-! ## Sums over parts -/

theorem lineCount_of_not_mem {line : Text} (clean : '\n' ∉ line) :
    lineCount line = if Line.isFenceDelimiter line then 1 else 0 := by
  rw [lineCount, Text.lines_of_not_mem clean, List.countP_singleton]

theorem laterCount_of_not_mem {line : Text} (clean : '\n' ∉ line) : laterCount line = 0 := by
  rw [laterCount, Text.lines_of_not_mem clean]
  rfl

/-- A line feed separates what is counted. -/
theorem lineCount_append_feed (front rest : Text) :
    lineCount (front ++ '\n' :: rest) = lineCount front + lineCount rest := by
  rw [lineCount, Text.lines_append_feed, List.countP_append]
  rfl

theorem laterCount_append_feed (front rest : Text) :
    laterCount (front ++ '\n' :: rest) = laterCount front + lineCount rest := by
  have nonempty : Text.lines front ≠ [] := List.splitOnP_ne_nil _ front
  rw [laterCount, Text.lines_append_feed, List.tail_append_of_ne_nil nonempty, List.countP_append]
  rfl

theorem lineCount_cons_feed (rest : Text) : lineCount ('\n' :: rest) = lineCount rest :=
  (lineCount_append_feed [] rest).trans (Nat.zero_add _)

/-- Of a part that begins with an ordinary character only the later lines count. -/
theorem lineCount_append_cons {c : Char} (ordinary : isOrdinary c) (front rest : Text) :
    lineCount (front ++ c :: rest) = lineCount front + laterCount rest := by
  have feed : c ≠ '\n' := by
    rintro rfl
    exact absurd ordinary (by decide)
  -- Within the one line that goes through that character, then with the lines before and behind.
  have inLine (start : Text) (clean : '\n' ∉ start) :
      lineCount (start ++ c :: rest) = lineCount start + laterCount rest := by
    obtain ⟨line, ends, rfl | ⟨others, rfl⟩⟩ := Text.exists_first_line rest
    · have whole : '\n' ∉ start ++ c :: line := by simp [clean, ends, Ne.symm feed]
      rw [lineCount_of_not_mem whole, Line.isFenceDelimiter_append_cons ordinary,
        laterCount_of_not_mem ends, lineCount_of_not_mem clean, Nat.add_zero]
    · have whole : '\n' ∉ start ++ c :: line := by simp [clean, ends, Ne.symm feed]
      rw [← List.cons_append, ← List.append_assoc, lineCount_append_feed,
        lineCount_of_not_mem whole, Line.isFenceDelimiter_append_cons ordinary,
        laterCount_append_feed, laterCount_of_not_mem ends, lineCount_of_not_mem clean,
        Nat.zero_add]
  obtain ⟨start, clean, rfl | ⟨before, rfl⟩⟩ := Text.exists_last_line front
  · exact inLine _ clean
  · rw [List.append_assoc, List.cons_append, lineCount_append_feed, inLine start clean,
      lineCount_append_feed, Nat.add_assoc]

theorem laterCount_append_cons {c : Char} (ordinary : isOrdinary c) (front rest : Text) :
    laterCount (front ++ c :: rest) = laterCount front + laterCount rest := by
  have feed : c ≠ '\n' := by
    rintro rfl
    exact absurd ordinary (by decide)
  obtain ⟨start, clean, rfl | ⟨before, rfl⟩⟩ := Text.exists_first_line front
  · obtain ⟨line, ends, rfl | ⟨others, rfl⟩⟩ := Text.exists_first_line rest
    · have whole : '\n' ∉ start ++ c :: line := by simp [clean, ends, Ne.symm feed]
      rw [laterCount_of_not_mem whole, laterCount_of_not_mem clean, laterCount_of_not_mem ends]
    · have whole : '\n' ∉ start ++ c :: line := by simp [clean, ends, Ne.symm feed]
      rw [← List.cons_append, ← List.append_assoc, laterCount_append_feed,
        laterCount_of_not_mem whole, laterCount_append_feed, laterCount_of_not_mem clean,
        laterCount_of_not_mem ends, Nat.zero_add, Nat.zero_add]
  · rw [List.append_assoc, List.cons_append, laterCount_append_feed,
      lineCount_append_cons ordinary, laterCount_append_feed, Nat.add_assoc]

/-! ## Solid parts -/

/-- A text on one line that begins with an ordinary character. -/
def isSolid (s : Text) : Bool := s.head?.any isOrdinary && !s.contains '\n'

theorem isSolid_iff {s : Text} :
    isSolid s ↔ ∃ c rest, s = c :: rest ∧ isOrdinary c ∧ '\n' ∉ rest := by
  cases s with
  | nil => simp [isSolid]
  | cons c rest =>
    have other (ordinary : isOrdinary c) : c ≠ '\n' := by
      rintro rfl
      exact absurd ordinary (by decide)
    constructor
    · intro solid
      simp only [isSolid, List.head?_cons, Option.any_some, Bool.and_eq_true, Bool.not_eq_true',
        List.contains_eq_mem, decide_eq_false_iff_not] at solid
      exact ⟨c, rest, rfl, solid.1, fun member => solid.2 (List.mem_cons_of_mem c member)⟩
    · rintro ⟨_, _, same, ordinary, clean⟩
      obtain ⟨rfl, rfl⟩ := List.cons.inj same
      simp [isSolid, ordinary, clean, Ne.symm (other ordinary)]

/-- More text on the line of a solid text. -/
theorem isSolid_append {s rest : Text} (solid : isSolid s) (clean : '\n' ∉ rest) :
    isSolid (s ++ rest) := by
  obtain ⟨c, others, rfl, ordinary, noFeed⟩ := isSolid_iff.mp solid
  exact isSolid_iff.mpr ⟨c, others ++ rest, rfl, ordinary, by simp [noFeed, clean]⟩

/-- What stands on one line in front of a text is no line of its own. -/
theorem laterCount_append {line : Text} (clean : '\n' ∉ line) (rest : Text) :
    laterCount (line ++ rest) = laterCount rest := by
  obtain ⟨first, ends, rfl | ⟨others, rfl⟩⟩ := Text.exists_first_line rest
  · rw [laterCount_of_not_mem (by simp [clean, ends]), laterCount_of_not_mem ends]
  · rw [← List.append_assoc, laterCount_append_feed, laterCount_append_feed,
      laterCount_of_not_mem (by simp [clean, ends]), laterCount_of_not_mem ends]

variable {s : Text} (solid : isSolid s) (front rest : Text)
include solid

/-- A solid part does not count, and it separates what is counted. -/
theorem lineCount_append_of_isSolid :
    lineCount (front ++ (s ++ rest)) = lineCount front + laterCount rest := by
  obtain ⟨c, others, rfl, ordinary, clean⟩ := isSolid_iff.mp solid
  rw [List.cons_append, lineCount_append_cons ordinary, laterCount_append clean]

theorem laterCount_append_of_isSolid :
    laterCount (front ++ (s ++ rest)) = laterCount front + laterCount rest := by
  obtain ⟨c, others, rfl, ordinary, clean⟩ := isSolid_iff.mp solid
  rw [List.cons_append, laterCount_append_cons ordinary, laterCount_append clean]

omit solid

/-! ## Parts of a text -/

theorem laterCount_le_append_left : laterCount rest ≤ laterCount (front ++ rest) := by
  obtain ⟨start, clean, rfl | ⟨before, rfl⟩⟩ := Text.exists_last_line front
  · rw [laterCount_append clean]
  · rw [List.append_assoc, List.cons_append, laterCount_append_feed, ← laterCount_append clean]
    exact Nat.le_add_left_of_le (List.tail_sublist _).countP_le

theorem lineCount_le_append_right : lineCount front ≤ lineCount (front ++ rest) := by
  have inLine (start : Text) (clean : '\n' ∉ start) :
      lineCount start ≤ lineCount (start ++ rest) := by
    have kept (line : Text) (ends : '\n' ∉ line) : lineCount start ≤ lineCount (start ++ line) := by
      rw [lineCount_of_not_mem clean, lineCount_of_not_mem (by simp [clean, ends])]
      by_cases fence : Line.isFenceDelimiter start
      · rw [if_pos fence, if_pos (Line.isFenceDelimiter_append fence line)]
      · rw [if_neg fence]
        exact Nat.zero_le _
    obtain ⟨line, ends, rfl | ⟨others, rfl⟩⟩ := Text.exists_first_line rest
    · exact kept _ ends
    · rw [← List.append_assoc, lineCount_append_feed]
      exact Nat.le_add_right_of_le (kept line ends)
  obtain ⟨start, clean, rfl | ⟨before, rfl⟩⟩ := Text.exists_last_line front
  · exact inLine _ clean
  · rw [List.append_assoc, List.cons_append, lineCount_append_feed, lineCount_append_feed]
    exact Nat.add_le_add_left (inLine start clean) _

theorem laterCount_le_append_right : laterCount front ≤ laterCount (front ++ rest) := by
  obtain ⟨start, clean, rfl | ⟨others, rfl⟩⟩ := Text.exists_first_line front
  · rw [laterCount_of_not_mem clean]
    exact Nat.zero_le _
  · rw [List.append_assoc, List.cons_append, laterCount_append_feed, laterCount_append_feed]
    exact Nat.add_le_add_left (lineCount_le_append_right others rest) _

/-- A part of a text has no more fence delimiters behind its first line than the text. -/
theorem laterCount_le_of_isInfix {part t : Text} (inside : part <:+: t) :
    laterCount part ≤ laterCount t := by
  obtain ⟨front, rest, rfl⟩ := inside
  calc laterCount part ≤ laterCount (front ++ part) := laterCount_le_append_left front part
    _ ≤ laterCount (front ++ part ++ rest) := laterCount_le_append_right (front ++ part) rest

end Fence

end MarkdownDialects
