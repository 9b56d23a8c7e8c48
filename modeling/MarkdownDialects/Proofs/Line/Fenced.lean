import MarkdownDialects.Line.Fence
import MarkdownDialects.Proofs.Text.Lines

/-!
# Code between fences
-/

namespace MarkdownDialects

/-- Code between two fences of three backticks. -/
def fenced (code : Text) : Text := "```\n".toList ++ (code ++ "\n```".toList)

/-- Characters that no fence of backticks is written with and that are read as they are. -/
def isCodeChar (c : Char) : Bool := c != '`' && c != '\r' && c != '\x00'

/-- A text that stays as it is between two fences. -/
def IsCode (code : Text) : Prop := ∀ c ∈ code, isCodeChar c

instance : DecidablePred IsCode := fun code =>
  List.decidableBAll (fun c => isCodeChar c = true) code

theorem IsCode.of_all {code : Text} (all : code.all isCodeChar) : IsCode code :=
  List.all_eq_true.mp all

theorem isCode_iff {code : Text} : IsCode code ↔ '`' ∉ code ∧ '\r' ∉ code ∧ '\x00' ∉ code := by
  simp only [IsCode, isCodeChar, Bool.and_eq_true, bne_iff_ne, ne_eq]
  constructor
  · intro clean
    exact ⟨fun member => (clean _ member).1.1 rfl, fun member => (clean _ member).1.2 rfl,
      fun member => (clean _ member).2 rfl⟩
  · rintro ⟨noBacktick, noReturn, noNull⟩ c member
    exact ⟨⟨fun same => noBacktick (same ▸ member), fun same => noReturn (same ▸ member)⟩,
      fun same => noNull (same ▸ member)⟩

theorem isCode_append {front back : Text} :
    IsCode (front ++ back) ↔ IsCode front ∧ IsCode back := List.forall_mem_append

theorem IsCode.of_subset {code part : Text} (clean : IsCode code) (inside : part ⊆ code) :
    IsCode part := fun c member => clean c (inside member)

theorem IsCode.not_mem {code : Text} (clean : IsCode code) {c : Char}
    (other : isCodeChar c = false) : c ∉ code := fun member =>
  Bool.noConfusion (other.symm.trans (clean c member))

namespace Fence

theorem runLength_eq_zero {mark : Char} {t : Text} (clean : mark ∉ t) : runLength mark t = 0 := by
  cases t with
  | nil => rfl
  | cons c t =>
    have other : (c == mark) = false := by
      simpa using fun same : c = mark => clean (same ▸ List.mem_cons_self)
    rw [runLength, List.takeWhile_cons_of_neg (by simp [other])]
    rfl

end Fence

namespace Text

theorem lines_fenced (code : Text) :
    lines (fenced code) = "```".toList :: (lines code ++ ["```".toList]) := by
  have front : "```\n".toList = "```".toList ++ ['\n'] := rfl
  have back : "\n```".toList = '\n' :: "```".toList := rfl
  rw [fenced, front, back, List.append_assoc, List.singleton_append, lines_append_feed,
    lines_append_feed, lines_of_not_mem (by decide)]
  rfl

/-- The lines of a text hold its characters. -/
theorem not_mem_of_mem_lines {c : Char} {t line : Text} (absent : c ∉ t) (member : line ∈ lines t) :
    c ∉ line := fun inside => absent (of_mem_splitOnP member c inside).1

end Text

end MarkdownDialects
