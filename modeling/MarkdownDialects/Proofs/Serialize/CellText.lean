import MarkdownDialects.Proofs.Serialize.Bars
import MarkdownDialects.Proofs.Serialize.CellState
import MarkdownDialects.Proofs.Serialize.Fragment

/-!
# Open bars in cells

Every piece that is written for the content of a cell is closed, and its open bars are counted: text
has none, code has those that stood behind a backslash, and images and links have all of their
attributes.
-/

namespace MarkdownDialects

namespace Serialize

open Html (Node Attribute)

/-- Elements around text whose content is written as part of the text. -/
def phrasingTags : List String := ["em", "i", "strong", "b", "del", "s", "strike", "a"]

mutual

/-- Whether a node is text, emphasis, deleted text, a link, code or an image, at any depth. -/
def isPhrasing : Node → Bool
  | .text _ => true
  | .comment _ => false
  | .element tag _ content =>
    tag == "code" || tag == "img" || phrasingTags.contains tag && arePhrasing content

/-- Whether some nodes are text, emphasis, deleted text, links, code or images, at any depth. -/
def arePhrasing : List Node → Bool
  | [] => true
  | n :: rest => isPhrasing n && arePhrasing rest

end

/-- The open bars in an attribute. -/
def attributeBars (e : Element) (name : String) : Nat := ((e.attribute? name).map openBars).getD 0

/-- The open bars of a link apart from those in its text. -/
def linkBars (e : Element) : Nat :=
  if e.has "href" then attributeBars e "href" + attributeBars e "title" else 0

/-- The open bars of an image. -/
def imageBars (e : Element) : Nat :=
  if e.has "src" then attributeBars e "alt" + attributeBars e "src" + attributeBars e "title" else 0

/-- The bars in code that are escaped: the backslash that is written before each opens it. -/
def codeBars (code : Text) : Nat := code.count '|' - openBars code

mutual

/-- The open bars in what is written for a node in a cell. -/
def strayBars : Node → Nat
  | .element tag attributes content =>
    if tag == "code" then codeBars (Node.textContents content)
    else if tag == "img" then imageBars ⟨tag, attributes⟩
    else strayBarsAll content + if tag == "a" then linkBars ⟨tag, attributes⟩ else 0
  | _ => 0

/-- The open bars in what is written for some nodes in a cell. -/
def strayBarsAll : List Node → Nat
  | [] => 0
  | n :: rest => strayBars n + strayBarsAll rest

end

/-- A line feed made a space. -/
theorem reblanks_feed : Reblanks fun c => if c = '\n' then ' ' else c := fun c => by
  dsimp only
  split
  · rename_i feed
    exact .inr ⟨feed ▸ rfl, rfl⟩
  · exact .inl rfl

theorem replaceFeed_eq_map (t : Text) :
    Text.replaceChar '\n' [' '] t = t.map fun c => if c = '\n' then ' ' else c := by
  rw [Text.replaceChar, List.map_eq_flatMap]
  exact List.flatMap_congr fun c _ => by split <;> rfl

namespace Barred

variable {s t out piece content : Text} {m n : Nat}

theorem feeds (count : Nat) : Barred (Text.rep count '\n') 0 :=
  of_blank fun c member => by
    rw [List.eq_of_mem_replicate member]
    rfl

theorem join (front : Barred out m) (back : Barred piece n) :
    Barred (join out piece) (m + n) := by
  unfold Serialize.join
  split
  · rename_i empty
    obtain rfl := List.isEmpty_iff.mp empty
    rw [← back.openBars_eq]
    exact front
  · dsimp only
    have body : Barred (piece.dropWhile (· == '\n')) n := back.trimStartBy blank_of_isFeed
    have kept := front.trimEndBy blank_of_isFeed
    split
    · exact front.append back
    · have seam {kept : Text} (kept' : Barred kept m) (count : Nat) :
          Barred (kept ++ Text.rep count '\n' ++ piece.dropWhile (· == '\n')) (m + n) :=
        (kept'.append (feeds count)).append body
      split
      · exact seam (kept.trimEndBy blank_of_isSpace) _
      · exact seam kept _

theorem delimit (barred : Barred content n) {delimiter : Text}
    (clean : ∀ c ∈ delimiter, c ≠ '\\' ∧ c ≠ '|') : Barred (delimit content delimiter) n := by
  cases blank : Text.isAllBlank content with
  | true =>
    rw [Serialize.delimit, blank, if_pos rfl]
    exact barred.eq_zero_of_isAllBlank blank ▸ .nil
  | false =>
    have inner : Barred (Text.trim content) n := barred.trimBy fun _ blank => blank
    obtain ⟨front, back, before, behind, _, delimited⟩ := exists_delimit blank delimiter
    rw [delimited]
    have all := ((((of_blank before).append (of_clean clean)).append inner).append
      (of_clean clean)).append (of_blank behind)
    simpa only [Nat.zero_add, Nat.add_zero] using all

theorem cellText (barred : Barred content n) : Barred (cellText content) n := by
  rw [Serialize.cellText, replaceFeed_eq_map]
  exact (barred.trimBy fun _ blank => blank).map reblanks_feed

/-- A character that is not escaped yet may be escaped too. -/
theorem escape_behind {run : Text} {c : Char} (barred : Barred (run ++ c :: t) n)
    (clean : ∀ d ∈ run, d ≠ '\\' ∧ d ≠ '|') (closer : IsCloser c) :
    Barred (run ++ '\\' :: c :: t) n := by
  induction run with
  | nil =>
    have shown : Text.isAllBlank (c :: t) = false := by simp [Text.isAllBlank, closer.shown]
    exact .escaped shown (barred.of_cons closer.noEscape closer.noBar)
  | cons d run ih =>
    obtain ⟨noEscape, noBar⟩ := clean d List.mem_cons_self
    exact .plain noEscape noBar
      (ih (barred.of_cons noEscape noBar) fun e member => clean e (.tail d member))

end Barred

theorem isBlank_of_isPunctuation {c : Char} (punctuation : Ascii.isPunctuation c) :
    Text.isBlank c = false := by
  simp only [Ascii.isPunctuation, Bool.and_eq_true, decide_eq_true_eq] at punctuation
  simp [Text.isBlank]
  omega

/-- Text in a cell has no open bars. -/
theorem barred_escape (t : Text) : Barred (escapeBars (escape t)) 0 := by
  have marked : Barred (escapeBars (escapeMarkup t)) 0 := by
    induction t with
    | nil => exact .nil
    | cons c t ih =>
      rw [escapeMarkup_cons]
      split
      next markup =>
        have shown := isBlank_of_isPunctuation (isPunctuation_of_isMarkup markup)
        have noBar : c ≠ '|' := by
          rintro rfl
          exact absurd markup (by decide)
        simp only [List.cons_append, List.nil_append, escapeBars_cons, if_neg noBar]
        exact .escaped (by simp [Text.isAllBlank, shown]) ih
      next unmarked =>
        have noEscape : c ≠ '\\' := by
          rintro rfl
          exact unmarked rfl
        rw [List.singleton_append, escapeBars_cons]
        split
        · exact .escaped rfl ih
        · exact .plain noEscape ‹_› ih
  rw [escape]
  rcases escapeStart_cases (escapeMarkup t) with same | ⟨front, c, back, whole, digits, first⟩
  · rwa [same]
  · obtain ⟨punctuation, noEscape, noBar, escaped⟩ := first
    have clean : ∀ d ∈ front, d ≠ '\\' ∧ d ≠ '|' := fun d member => by
      constructor
      · rintro rfl
        exact absurd (digits _ member) (by decide)
      · rintro rfl
        exact absurd (digits _ member) (by decide)
    have kept (u : Text) : escapeBars (front ++ u) = front ++ escapeBars u := by
      rw [escapeBars, Text.replaceChar_append,
        Text.replaceChar_of_not_mem fun member => (clean _ member).2 rfl, escapeBars]
    rw [whole, kept, escapeBars_cons, if_neg noBar] at marked
    rw [escaped, kept, escapeBars_cons, if_neg (by decide), escapeBars_cons, if_neg noBar]
    exact marked.escape_behind clean ⟨isBlank_of_isPunctuation punctuation, noEscape, noBar⟩

theorem barred_writeText (t : Text) {pen : Pen} (cell : pen.inCell) :
    Barred (writeText t pen).1 0 := by
  unfold writeText
  dsimp only
  generalize (if pen.dropsSpace then (collapse t).dropWhile (· == ' ') else collapse t) = shown
  split
  · exact .nil
  · rw [Pen.escaping, if_pos cell]
    exact barred_escape shown

/-! ## Code, images and links -/

theorem isCloser_of_mem {c : Char} (member : c ∈ "`](\")".toList) : IsCloser c := by
  have all : "`](\")".toList.all fun c => !Text.isBlank c && c != '\\' && c != '|' := rfl
  obtain ⟨⟨shown, noEscape⟩, noBar⟩ := by simpa using List.all_eq_true.mp all c member
  exact ⟨shown, noEscape, noBar⟩

theorem openBars_space (t : Text) : openBars (t ++ [' ']) = openBars t := by
  induction t using openBars_induction with
  | nil | hanging => rfl
  | escaped c t ih => simpa [openBars] using ih
  | bar t ih => simpa [openBars] using ih
  | plain c t noEscape noBar ih =>
    rw [List.cons_append, openBars_plain noEscape noBar, openBars_plain noEscape noBar, ih]

theorem barred_ticks (count : Nat) : Barred (Text.rep count '`') 0 :=
  Barred.of_clean fun c member => by
    rw [List.eq_of_mem_replicate member]
    decide

theorem escapeBars_append (s t : Text) : escapeBars (s ++ t) = escapeBars s ++ escapeBars t :=
  Text.replaceChar_append ..

theorem escapeBars_ticks (count : Nat) : escapeBars (Text.rep count '`') = Text.rep count '`' :=
  Text.replaceChar_of_not_mem (by simp) _

theorem codeBars_padded (code : Text) : codeBars (padded code) = codeBars code := by
  unfold padded
  split
  · rw [codeBars, List.cons_append, openBars_plain (by decide) (by decide), openBars_space]
    simp [codeBars]
  · rfl

theorem codeBars_oneLine (code : Text) : codeBars (oneLine code) = codeBars code := by
  have reblanks : Reblanks fun c => if c == '\r' || c == '\n' then ' ' else c := fun c => by
    dsimp only
    split
    next lineEnd =>
      rcases Bool.or_eq_true_iff.mp lineEnd with same | same <;> rw [beq_iff_eq.mp same] <;>
        exact .inr ⟨rfl, rfl⟩
    next => exact .inl rfl
  rw [codeBars, oneLine, reblanks.openBars_map, reblanks.count_map, codeBars]

/-- Code in a cell. -/
theorem barred_inlineCode (code : Text) :
    Barred (escapeBars (inlineCode code)) (codeBars code) := by
  by_cases empty : code = []
  · exact empty ▸ .nil
  · obtain ⟨width, size⟩ := Nat.exists_eq_succ_of_ne_zero (delimiterWidth_ne_zero (oneLine code))
    have bars : openBars (escapeBars (padded (oneLine code))) = codeBars code := by
      rw [← codeBars_oneLine, ← codeBars_padded, codeBars, ← openBars_escapeBars,
        Nat.add_sub_cancel]
    rw [inlineCode_eq empty, size, escapeBars_append, escapeBars_append, escapeBars_ticks,
      List.append_assoc, ← bars]
    have tick := isCloser_of_mem (c := '`') (by decide)
    have closed := Barred.of_closer tick (escapeBars (padded (oneLine code))) (barred_ticks width)
    have all := (barred_ticks (width + 1)).append closed
    rwa [Nat.zero_add, Nat.add_zero] at all

theorem barred_target (e : Element) (address : Text) :
    Barred (address ++ titleSuffix e ++ [')']) (openBars address + attributeBars e "title") := by
  have paren := isCloser_of_mem (c := ')') (by decide)
  have mark := isCloser_of_mem (c := '"') (by decide)
  unfold titleSuffix attributeBars
  cases e.attribute? "title" with
  | none =>
    rw [List.append_nil]
    exact Barred.of_closer paren address .nil
  | some title =>
    have closing : Barred [')'] 0 := Barred.of_closer paren [] .nil
    have inside := Barred.of_closer mark (Text.replaceChar '"' ['\\', '"'] title) closing
    rw [openBars_replaceChar (by decide) (by decide)] at inside
    have all := Barred.of_closer mark (address ++ [' ']) inside
    rw [openBars_space] at all
    simpa using all

theorem barred_image (e : Element) : Barred (image e) (imageBars e) := by
  have bracket := isCloser_of_mem (c := ']') (by decide)
  unfold image imageBars Element.has
  cases source : e.attribute? "src" with
  | none => exact .nil
  | some src =>
    have target : Barred ('(' :: (src ++ titleSuffix e ++ [')'])) _ :=
      .plain (by decide) (by decide) (barred_target e src)
    have alt : openBars (Text.replaceChar '\n' [' '] ((e.attribute? "alt").getD [])) =
        attributeBars e "alt" := by
      rw [replaceFeed_eq_map, reblanks_feed.openBars_map, attributeBars]
      cases e.attribute? "alt" <;> rfl
    have inside := Barred.of_closer bracket
      (Text.replaceChar '\n' [' '] ((e.attribute? "alt").getD [])) target
    have all : Barred ('!' :: '[' :: _) _ :=
      .plain (by decide) (by decide) (.plain (by decide) (by decide) inside)
    simpa [attributeBars, source, alt, Nat.add_assoc] using all

theorem Barred.link {content : Text} {n : Nat} (barred : Barred content n) (e : Element) :
    Barred (link e content) (n + linkBars e) := by
  unfold Serialize.link linkBars Element.has
  cases address : e.attribute? "href" with
  | none => exact barred
  | some href =>
    have target := barred_target e
      (Text.replaceChar ')' ['\\', ')'] (Text.replaceChar '(' ['\\', '('] href))
    rw [openBars_replaceChar (by decide) (by decide),
      openBars_replaceChar (by decide) (by decide)] at target
    have behind : Barred (']' :: '(' :: _) _ :=
      .plain (by decide) (by decide) (.plain (by decide) (by decide) target)
    have all : Barred ('[' :: _) _ := .plain (by decide) (by decide) (barred.append behind)
    simpa [attributeBars, address] using all

/-! ## Nodes -/

/-- Delimiters that neither divide cells nor escape what is behind them. -/
def CleanDelimiters (options : SerializeOptions) : Prop :=
  ∀ c ∈ options.emDelimiter ++ options.strongDelimiter, c ≠ '\\' ∧ c ≠ '|'

instance (options : SerializeOptions) : Decidable (CleanDelimiters options) :=
  decidable_of_iff
    ((options.emDelimiter ++ options.strongDelimiter).all fun c => c != '\\' && c != '|')
    (by simp only [CleanDelimiters, List.all_eq_true, Bool.and_eq_true, bne_iff_ne])

section Nodes

variable {options : SerializeOptions} {tag : String} {attributes : List Attribute}
  {content : List Node}

theorem phrasingTags_cases (member : phrasingTags.contains tag) :
    (tag = "em" ∨ tag = "i") ∨ (tag = "strong" ∨ tag = "b") ∨
      (tag = "del" ∨ tag = "s" ∨ tag = "strike") ∨ tag = "a" := by
  simp only [phrasingTags, List.contains_cons, List.contains_nil, Bool.or_false, Bool.or_eq_true,
    beq_iff_eq] at member
  tauto

theorem writeNode_phrasing (member : phrasingTags.contains tag) (parent : String) (pen : Pen) :
    (writeNode options ElementRule.defaults parent (.element tag attributes content) pen).1 =
      wrap options ⟨tag, attributes⟩
        (writeChildren options ElementRule.defaults tag true content pen []).1 := by
  rcases phrasingTags_cases member with
    (rfl | rfl) | (rfl | rfl) | (rfl | rfl | rfl) | rfl <;> rfl

theorem Barred.wrap {content : Text} {n : Nat} (barred : Barred content n)
    (clean : CleanDelimiters options) (member : phrasingTags.contains tag)
    (attributes : List Attribute) :
    Barred (wrap options ⟨tag, attributes⟩ content)
      (n + if tag == "a" then linkBars ⟨tag, attributes⟩ else 0) := by
  have em := barred.delimit fun c member => clean c (List.mem_append_left _ member)
  have strong := barred.delimit fun c member => clean c (List.mem_append_right _ member)
  have deleted : Barred (Serialize.delimit content ['~', '~']) n := barred.delimit (by simp)
  rcases phrasingTags_cases member with
    (rfl | rfl) | (rfl | rfl) | (rfl | rfl | rfl) | rfl
  · exact em
  · exact em
  · exact strong
  · exact strong
  · exact deleted
  · exact deleted
  · exact deleted
  · exact barred.link _

mutual

theorem closesCell_of_isPhrasing {n : Node} (phrasing : isPhrasing n) :
    closesCell ElementRule.defaults n = false := by
  cases n with
  | text t => rfl
  | comment t => rfl
  | element tag attributes content =>
    rw [isPhrasing, Bool.or_eq_true, Bool.or_eq_true, beq_iff_eq, beq_iff_eq,
      Bool.and_eq_true] at phrasing
    rcases phrasing with (rfl | rfl) | ⟨member, inside⟩
    · rfl
    · rfl
    · have closes : closesCell ElementRule.defaults (.element tag attributes content) =
          anyClosesCell ElementRule.defaults content := by
        rcases phrasingTags_cases member with
          (rfl | rfl) | (rfl | rfl) | (rfl | rfl | rfl) | rfl <;> rfl
      rw [closes, anyClosesCell_of_arePhrasing inside]

theorem anyClosesCell_of_arePhrasing {nodes : List Node} (phrasing : arePhrasing nodes) :
    anyClosesCell ElementRule.defaults nodes = false := by
  cases nodes with
  | nil => rfl
  | cons n rest =>
    obtain ⟨first, others⟩ := Bool.and_eq_true_iff.mp phrasing
    rw [anyClosesCell, closesCell_of_isPhrasing first, anyClosesCell_of_arePhrasing others,
      Bool.false_or]

end

mutual

/-- What is written for a node in a cell has the open bars that are counted. -/
theorem barred_writeNode (clean : CleanDelimiters options) {n : Node} (phrasing : isPhrasing n)
    (parent : String) {pen : Pen} (cell : pen.inCell) :
    Barred (writeNode options ElementRule.defaults parent n pen).1 (strayBars n) := by
  cases n with
  | comment t => exact absurd phrasing Bool.false_ne_true
  | text t => exact barred_writeText t cell
  | element tag attributes content =>
    rw [isPhrasing, Bool.or_eq_true, Bool.or_eq_true, beq_iff_eq, beq_iff_eq,
      Bool.and_eq_true] at phrasing
    rcases phrasing with (rfl | rfl) | ⟨member, inside⟩
    · have code : (writeNode options ElementRule.defaults parent
          (.element "code" attributes content) pen).1 =
            pen.escaping (inlineCode (Node.textContents content)) := rfl
      rw [code, Pen.escaping, if_pos cell]
      exact barred_inlineCode _
    · exact barred_image _
    · have written := Barred.wrap (barred_writeChildren clean inside tag true cell .nil) clean
        member attributes
      have stray : strayBars (.element tag attributes content) = 0 + strayBarsAll content +
          if tag == "a" then linkBars ⟨tag, attributes⟩ else 0 := by
        rw [Nat.zero_add]
        rcases phrasingTags_cases member with
          (rfl | rfl) | (rfl | rfl) | (rfl | rfl | rfl) | rfl <;> rfl
      rw [writeNode_phrasing member, stray]
      exact written

theorem barred_writeChildren (clean : CleanDelimiters options) {nodes : List Node}
    (phrasing : arePhrasing nodes) (parent : String) (afterBlock : Bool) {pen : Pen}
    (cell : pen.inCell) {out : Text} {m : Nat} (front : Barred out m) :
    Barred (writeChildren options ElementRule.defaults parent afterBlock nodes pen out).1
      (m + strayBarsAll nodes) := by
  cases nodes with
  | nil => exact front
  | cons n rest =>
    obtain ⟨first, others⟩ := Bool.and_eq_true_iff.mp phrasing
    rw [writeChildren, strayBarsAll]
    split
    next skipped =>
      have none : strayBars n = 0 := by
        cases n with
        | element => exact absurd skipped Bool.false_ne_true
        | text t => rfl
        | comment t => rfl
      rw [none, Nat.zero_add]
      exact barred_writeChildren clean others parent false cell front
    next =>
      dsimp only
      have stays : (writeNode options ElementRule.defaults parent n pen).2.inCell := by
        rw [inCell_writeNode, cell, closesCell_of_isPhrasing first]
        rfl
      rw [← Nat.add_assoc]
      exact barred_writeChildren clean others parent _ stays
        (front.join (barred_writeNode clean first parent cell))

end

end Nodes

end Serialize

end MarkdownDialects
