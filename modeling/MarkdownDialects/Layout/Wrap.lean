import MarkdownDialects.Line.Kind

/-!
# Wrapping words into lines

Lines are filled greedily.  A word that would read as block syntax at the start of a line is never
put there: the word before it is carried down with it, or, where that word may not lead a line
either, both stay on a line that is then too long.
-/

namespace MarkdownDialects

namespace Wrap

/-- Characters of which a word must not wholly consist to lead a line. -/
def isRuleChar (c : Char) : Bool :=
  c == '-' || c == '|' || c == ':' || c == '=' || c == '*' || c == '_'

/-- A number followed by a full stop, which reads as a list marker. -/
def isNumberMarker (word : Text) : Bool :=
  match Text.before? ['.'] word with
  | some number => !number.isEmpty && number.all Char.isDigit
  | none => false

/-- Characters that read as block syntax wherever they start a line. -/
def isLeadMark (c : Char) : Bool := c == '#' || c == '>' || c == '|'

/-- Whether a word is safe as the first word of a line that continues a paragraph. -/
def canLead (word : Text) : Bool :=
  !(word.head?.any isLeadMark) &&
    !Text.startsWith word ['`', '`', '`'] && !Text.startsWith word ['~', '~', '~'] &&
    !(word == ['-'] || word == ['*'] || word == ['+']) &&
    !isNumberMarker word && !word.all isRuleChar

/-- The width of a line of words with one space between neighbours. -/
def lineWidth (ws : List Text) : Nat := (Text.unwords ws).length

/-- The last word of a line with at least two words, when it may lead the next line, and the
words before it. -/
def carry? (current : List Text) : Option (List Text × Text) :=
  match current with
  | _ :: _ :: _ =>
    match current.getLast? with
    | some last => if canLead last then some (current.dropLast, last) else none
    | none => none
  | _ => none

/-- Fill lines from the remaining words; `current` holds the words of the line being filled. -/
def fill (width : Nat) : List Text → List Text → List (List Text)
  | current, [] => if current.isEmpty then [] else [current]
  | [], word :: rest => fill width [word] rest
  | current@(_ :: _), word :: rest =>
    if lineWidth current + 1 + word.length ≤ width then fill width (current ++ [word]) rest
    else if canLead word then current :: fill width [word] rest
    else
      match carry? current with
      | some (line, last) => line :: fill width [last, word] rest
      | none => fill width (current ++ [word]) rest

/-- A word that is carried down leaves the words before it. -/
theorem carry?_append {current line : List Text} {last : Text}
    (carried : carry? current = some (line, last)) : line ++ [last] = current := by
  unfold carry? at carried
  split at carried
  · split at carried
    · rename_i found
      split at carried
      · cases carried
        obtain ⟨front, whole⟩ := List.getLast?_eq_some_iff.1 found
        rw [whole, List.dropLast_concat]
      · simp at carried
    · simp at carried
  · simp at carried

/-- Filling lines keeps all words in order. -/
@[simp]
theorem flatten_fill (width : Nat) (current words : List Text) :
    (fill width current words).flatten = current ++ words := by
  fun_induction fill width current words with
  | case1 | case2 => simp_all
  | case3 _ _ ih => simpa using ih
  | case4 _ _ _ _ _ ih => simpa using ih
  | case5 _ _ _ _ _ _ ih => simpa using ih
  | case6 _ _ _ _ _ _ _ _ carried ih =>
    rw [List.flatten_cons, ih, ← carry?_append carried]
    simp
  | case7 _ _ _ _ _ _ _ ih => simpa using ih

/-- The lines, each a list of words, that hold the given words within the given width. -/
def lines (width : Nat) (words : List Text) : List (List Text) := fill width [] words

end Wrap

end MarkdownDialects
