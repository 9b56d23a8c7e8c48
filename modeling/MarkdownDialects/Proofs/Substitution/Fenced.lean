import MarkdownDialects.Proofs.Line.Fenced
import MarkdownDialects.Proofs.Substitution.Scan

/-!
# Replacing inside fenced code

A pattern whose matches neither begin at a fence nor reach into one replaces inside the code only:
what it makes of fenced code is fenced code again (`Pattern.KeepsFences.exists_replaceAll`).
-/

namespace MarkdownDialects

namespace Pattern

variable {p : Pattern} {f : Match → Text}

/-- Characters of the fences and of their line ends. -/
def isFenceChar (c : Char) : Bool := c == '`' || c == '\n'

/-- What a pattern and its replacements must satisfy to work inside fenced code only. -/
structure KeepsFences (p : Pattern) (f : Match → Text) : Prop where
  proper : p.Proper
  silent : ∀ before c t, isFenceChar c → p before (c :: t) = none
  inside : ∀ before code m, IsCode code → p before (code ++ "\n```".toList) = some m →
    m.whole <+: code ∧ IsCode (f m)

/-- Where no match begins, all characters are kept. -/
theorem Scanned.exists_kept_append {before : Option Char} {pieces : List Piece} {front t : Text}
    (scanned : Scanned p before pieces)
    (silent : ∀ before c t, isFenceChar c → p before (c :: t) = none)
    (fences : ∀ c ∈ front, isFenceChar c) (covers : pieces.flatMap Piece.source = front ++ t) :
    ∃ after rest, pieces = front.map .kept ++ rest ∧ Scanned p after rest ∧
      rest.flatMap Piece.source = t := by
  induction front generalizing before pieces with
  | nil => exact ⟨before, pieces, rfl, scanned, covers⟩
  | cons c front ih =>
    have first := fences c List.mem_cons_self
    cases scanned with
    | nil _ => exact nomatch covers
    | @kept _ d rest _ tail =>
      obtain ⟨same, behind⟩ := List.cons.inj covers
      obtain ⟨after, rest, rfl, scanned, left⟩ :=
        ih tail (fun e member => fences e (.tail c member)) behind
      subst same
      exact ⟨after, rest, rfl, scanned, left⟩
    | @hit _ m rest _ found _ =>
      have whole : m.whole ++ rest.flatMap Piece.source = c :: (front ++ t) := covers
      rw [whole, silent before c _ first] at found
      exact nomatch found

/-- Pieces that cover nothing are none. -/
theorem Scanned.eq_nil {before : Option Char} {pieces : List Piece}
    (scanned : Scanned p before pieces) (covers : pieces.flatMap Piece.source = []) :
    pieces = [] := by
  cases scanned with
  | nil _ => rfl
  | kept _ _ => exact nomatch covers
  | hit nonempty _ _ => exact absurd (List.append_eq_nil_iff.mp covers).1 nonempty

/-- Text that ends with no fence character does not reach into the closing fence. -/
theorem isPrefix_code {text closing code : Text} (shown : closing ≠ [])
    (ends : closing.getLast?.any isFenceChar = false)
    (front : text ++ closing <+: code ++ "\n```".toList) : text ++ closing <+: code := by
  rcases Nat.le_total (text ++ closing).length code.length with short | long
  · exact List.prefix_of_prefix_length_le front (List.prefix_append _ _) short
  · obtain ⟨reached, whole⟩ := List.prefix_of_prefix_length_le (List.prefix_append _ _) front long
    rw [← whole, List.prefix_append_right_inj] at front
    cases reached with
    | nil => exact ⟨[], by rw [← whole, List.append_nil, List.append_nil]⟩
    | cons c reached =>
      have all : ∀ c ∈ "\n```".toList, isFenceChar c := List.all_eq_true.mp rfl
      have last := congrArg List.getLast? whole
      rw [List.getLast?_append_of_ne_nil code (List.cons_ne_nil c reached),
        List.getLast?_append_of_ne_nil text shown,
        List.getLast?_eq_getLast_of_ne_nil (List.cons_ne_nil c reached)] at last
      rw [← last, Option.any_some] at ends
      exact Bool.noConfusion (ends.symm.trans (all _ (front.subset (List.getLast_mem _))))

/-- Text on one line does not reach into the closing fence either. -/
theorem isPrefix_code_of_not_mem {whole code : Text} (front : whole <+: code ++ "\n```".toList)
    (oneLine : '\n' ∉ whole) : whole <+: code := by
  rcases Nat.le_total whole.length code.length with short | long
  · exact List.prefix_of_prefix_length_le front (List.prefix_append _ _) short
  · obtain ⟨reached, rfl⟩ := List.prefix_of_prefix_length_le (List.prefix_append _ _) front long
    cases reached with
    | nil => rw [List.append_nil]
    | cons c reached =>
      have fence : "\n```".toList = '\n' :: "```".toList := rfl
      have first := (List.prefix_append_right_inj code).mp front
      rw [fence] at first
      obtain ⟨rfl, _⟩ := List.cons_prefix_cons.mp first
      exact absurd (by simp) oneLine

/-- No match begins at a fence if all begin with another character. -/
theorem Opens.silent {a : Char} {mark : Text} (opens : Opens p (a :: mark))
    (other : isFenceChar a = false) (before : Option Char) (c : Char) (t : Text)
    (fence : isFenceChar c) : p before (c :: t) = none := by
  refine opens fun found => ?_
  obtain ⟨rfl, _⟩ := List.cons_prefix_cons.mp found
  exact Bool.noConfusion (other.symm.trans fence)

namespace KeepsFences

variable (keeps : KeepsFences p f)
include keeps

/-- Behind the opening fence, the code is replaced and the closing fence is kept. -/
theorem exists_output {before : Option Char} {pieces : List Piece} {code : Text}
    (scanned : Scanned p before pieces) (clean : IsCode code)
    (covers : pieces.flatMap Piece.source = code ++ "\n```".toList) :
    ∃ replaced, pieces.flatMap (Piece.output f) = replaced ++ "\n```".toList ∧
      IsCode replaced := by
  induction scanned generalizing code with
  | nil _ => exact absurd covers (by simp)
  | @kept before c rest silent tail ih =>
    cases code with
    | nil =>
      obtain ⟨_, none, shown, left, empty⟩ := (Scanned.kept silent tail).exists_kept_append
        keeps.silent (List.all_eq_true.mp rfl) (show _ = "\n```".toList ++ ([] : Text) from covers)
      refine ⟨[], ?_, List.forall_mem_nil _⟩
      rw [shown, left.eq_nil empty, List.append_nil, flatMap_output_map_kept, List.nil_append]
    | cons d code =>
      obtain ⟨same, behind⟩ := List.cons.inj covers
      obtain ⟨replaced, output, kept⟩ := ih (fun e member => clean e (.tail _ member)) behind
      refine ⟨d :: replaced, ?_, List.forall_mem_cons.mpr ⟨clean d List.mem_cons_self, kept⟩⟩
      subst same
      rw [List.flatMap_cons, output]
      rfl
  | @hit before m rest nonempty found tail ih =>
    rw [List.flatMap_cons, Piece.source] at covers
    rw [covers] at found
    obtain ⟨⟨code, rfl⟩, written⟩ := keeps.inside before code m clean found
    rw [List.append_assoc] at covers
    obtain ⟨replaced, output, kept⟩ :=
      ih (isCode_append.mp clean).2 (List.append_cancel_left covers)
    refine ⟨f m ++ replaced, ?_, isCode_append.mpr ⟨written, kept⟩⟩
    rw [List.flatMap_cons, output, List.append_assoc]
    rfl

/-- **Fenced code stays fenced code.** -/
theorem exists_replaceAll {code : Text} (clean : IsCode code) :
    ∃ replaced, p.replaceAll f (fenced code) = fenced replaced ∧ IsCode replaced := by
  obtain ⟨scanned, covers⟩ := scanned_scanFrom keeps.proper none (fenced code)
  obtain ⟨after, rest, shown, scanned, covers⟩ := scanned.exists_kept_append keeps.silent
    (List.all_eq_true.mp rfl) (show _ = "```\n".toList ++ (code ++ "\n```".toList) from covers)
  obtain ⟨replaced, output, kept⟩ := keeps.exists_output scanned clean covers
  refine ⟨replaced, ?_, kept⟩
  rw [replaceAll_eq_flatMap, scan, shown, List.flatMap_append, output, flatMap_output_map_kept]
  rfl

end KeepsFences

end Pattern

end MarkdownDialects
