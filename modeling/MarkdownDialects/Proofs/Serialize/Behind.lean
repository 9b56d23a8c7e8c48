import Mathlib.Data.List.DropRight
import MarkdownDialects.Proofs.Line.OpenFence
import MarkdownDialects.Proofs.Serialize.Fragment
import MarkdownDialects.Proofs.Serialize.Page

/-!
# What stands in front of a block

Where fragments are joined, line feeds and white space between them change, and nothing else does.
So a block is written behind what is written for the nodes in front of it, but for white space at
the end of that (`Serialize.hasBehind_preceding`).
-/

namespace MarkdownDialects

namespace Html

/-- A place among the children of the body of a document. -/
structure BodyPlace where
  front : List Node
  htmlAttributes : List Attribute
  head : List Node
  bodyAttributes : List Attribute
  before : List Node
  after : List Node
  foot : List Node
  back : List Node

namespace BodyPlace

variable (place : BodyPlace)

/-- The document with a node at the place. -/
def document (n : Node) : List Node :=
  place.front ++ .element "html" place.htmlAttributes
    (place.head ++ .element "body" place.bodyAttributes (place.before ++ n :: place.after) ::
      place.foot) :: place.back

/-- The document up to the place. -/
def preceding : List Node :=
  place.front ++ [.element "html" place.htmlAttributes
    (place.head ++ [.element "body" place.bodyAttributes place.before])]

/-- The place behind a node at the place. -/
def next (n : Node) : BodyPlace := { place with before := place.before ++ [n] }

end BodyPlace

end Html

namespace Text

variable {p q : Char → Bool}

theorem trimEndBy_trimEndBy (covers : ∀ c, p c → q c) (t : Text) :
    trimEndBy q (trimEndBy p t) = trimEndBy q t := by
  obtain ⟨back, dropped, whole⟩ := exists_trimEndBy_append p t
  conv_rhs => rw [whole]
  exact (trimEndBy_append (fun c member => covers c (dropped c member)) _).symm

/-- Trimming goes no further than a character that is kept. -/
theorem exists_trimEndBy_eq_append {c : Char} (kept : p c = false) (front back : Text) :
    ∃ rest, rest <+: back ∧ trimEndBy p (front ++ c :: back) = front ++ c :: rest := by
  refine ⟨trimEndBy p back, trimEndBy_isPrefix back, ?_⟩
  rw [trimEndBy, List.reverse_append, List.reverse_cons, List.append_assoc, List.dropWhile_append]
  split
  next nothing =>
    have blank : trimEndBy p back = [] := by
      rw [trimEndBy, List.isEmpty_iff.mp nothing]
      rfl
    rw [blank, List.singleton_append, List.dropWhile_cons_of_neg (by simp [kept])]
    simp
  next =>
    rw [trimEndBy]
    simp

end Text

namespace Serialize

open Html (Node BodyPlace)

/-- What a fragment with some line feeds in front of it is put behind where it is appended. -/
def seam (out : Text) (leading : Nat) : Text :=
  let kept := Text.trimEndBy (· == '\n') out
  let trailing := out.length - kept.length
  if leading = 0 ∧ trailing = 0 then out
  else
    (if 0 < leading then Text.trimEndBy (fun c => c == ' ' || c == '\t') kept else kept) ++
      Text.rep (min 2 (max trailing leading)) '\n'

/-- A text is a number of line feeds and something that does not begin with one. -/
theorem exists_feeds (t : Text) :
    ∃ n body, t = Text.rep n '\n' ++ body ∧ body.dropWhile (· == '\n') = body := by
  refine ⟨(t.takeWhile (· == '\n')).length, t.dropWhile (· == '\n'), ?_, ?_⟩
  · have feeds : t.takeWhile (· == '\n') = Text.rep (t.takeWhile (· == '\n')).length '\n' :=
      List.eq_replicate_of_mem fun c member =>
        beq_iff_eq.mp (List.all_eq_true.mp List.all_takeWhile c member)
    rw [← feeds, List.takeWhile_append_dropWhile]
  · exact List.dropWhile_idempotent ..

theorem join_feeds {n : Nat} {body : Text} (bare : body.dropWhile (· == '\n') = body)
    (nonempty : Text.rep n '\n' ++ body ≠ []) (out : Text) :
    join out (Text.rep n '\n' ++ body) = seam out n ++ body := by
  have dropped : (Text.rep n '\n' ++ body).dropWhile (· == '\n') = body := by
    rw [List.dropWhile_append_of_pos (by simp), bare]
  have leading : (Text.rep n '\n' ++ body).length - body.length = n := by simp
  simp only [join, dropped, leading, List.isEmpty_eq_false_iff.mpr nonempty, Bool.false_eq_true,
    if_false, seam]
  split
  next plain => rw [plain.1]; rfl
  next => rfl

theorem blank_of_mem_rep {n : Nat} : ∀ c ∈ Text.rep n '\n', Text.isBlank c := fun c member => by
  rw [List.eq_of_mem_replicate member]
  rfl

/-- At a seam only white space changes. -/
theorem trimEnd_seam (out : Text) (n : Nat) : Text.trimEnd (seam out n) = Text.trimEnd out := by
  simp only [seam]
  split
  · rfl
  · rw [Text.trimEnd, Text.trimEndBy_append blank_of_mem_rep]
    split
    · rw [Text.trimEndBy_trimEndBy blank_of_isSpace, Text.trimEndBy_trimEndBy blank_of_isFeed]
    · rw [Text.trimEndBy_trimEndBy blank_of_isFeed]

theorem exists_seam_of_pos {n : Nat} (positive : 0 < n) (out : Text) :
    ∃ start, seam out n = start ++ ['\n'] ∧ Text.trimEnd start = Text.trimEnd out := by
  have several : min 2 (max (out.length - (Text.trimEndBy (· == '\n') out).length) n) ≠ 0 := by
    omega
  obtain ⟨m, more⟩ := Nat.exists_eq_succ_of_ne_zero several
  have whole := trimEnd_seam out n
  simp only [seam, if_neg (show ¬ (n = 0 ∧ _) from fun both => positive.ne' both.1), more,
    Text.rep, List.replicate_succ', ← List.append_assoc] at whole ⊢
  refine ⟨_, rfl, ?_⟩
  rwa [Text.trimEnd, Text.trimEndBy_append (List.forall_mem_singleton.mpr rfl)] at whole

/-- A line feed behind something shown is still there at a seam. -/
theorem exists_seam_append {c : Char} (shown : Text.isBlank c = false) (front rest : Text)
    (n : Nat) : ∃ more, seam (front ++ c :: '\n' :: rest) n = front ++ c :: '\n' :: more := by
  generalize whole : front ++ c :: '\n' :: rest = out
  simp only [seam]
  split
  · exact ⟨rest, whole.symm⟩
  next some =>
    have several : min 2 (max (out.length - (Text.trimEndBy (· == '\n') out).length) n) ≠ 0 := by
      omega
    obtain ⟨m, more⟩ := Nat.exists_eq_succ_of_ne_zero several
    have filled {kept : Text} (left : kept <+: '\n' :: rest) :
        ∃ more, front ++ c :: kept ++ Text.rep (m + 1) '\n' = front ++ c :: '\n' :: more := by
      cases kept with
      | nil => exact ⟨Text.rep m '\n', by simp [List.replicate_succ]⟩
      | cons d kept =>
        obtain ⟨rfl, _⟩ := List.cons_prefix_cons.mp left
        exact ⟨kept ++ Text.rep (m + 1) '\n', by simp⟩
    obtain ⟨kept, left, trimmed⟩ :=
      Text.exists_trimEndBy_eq_append (p := (· == '\n')) (isFeed_of_shown shown) front ('\n' :: rest)
    rw [whole] at trimmed
    rw [more, trimmed]
    split
    · obtain ⟨less, fewer, again⟩ := Text.exists_trimEndBy_eq_append
        (p := fun c => c == ' ' || c == '\t') (isSpace_of_shown shown) front kept
      rw [again]
      exact filled (fewer.trans left)
    · exact filled left

theorem join_append {piece : Text} (shown : piece.dropWhile (· == '\n') ≠ []) (out back : Text) :
    join out (piece ++ back) = join out piece ++ back := by
  obtain ⟨n, body, rfl, bare⟩ := exists_feeds piece
  have nonempty : body ≠ [] := by
    rintro rfl
    exact shown (by simp)
  have bareBack : (body ++ back).dropWhile (· == '\n') = body ++ back := by
    rw [List.dropWhile_append, bare, if_neg (by simpa using nonempty)]
  rw [List.append_assoc, join_feeds bareBack (by simp [nonempty]),
    join_feeds bare (by simp [nonempty]), List.append_assoc]

theorem trimEnd_join_of_blank {piece : Text} (blank : ∀ c ∈ piece, Text.isBlank c) (out : Text) :
    Text.trimEnd (join out piece) = Text.trimEnd out := by
  by_cases empty : piece = []
  · rw [empty, join_nil_right]
  · obtain ⟨n, body, rfl, bare⟩ := exists_feeds piece
    rw [join_feeds bare empty, Text.trimEnd,
      Text.trimEndBy_append fun c member => blank c (List.mem_append_right _ member)]
    exact trimEnd_seam out n

/-- White space at the end of a fragment stays there. -/
theorem trimEnd_join_trimEnd (out piece : Text) :
    Text.trimEnd (join out (Text.trimEnd piece)) = Text.trimEnd (join out piece) := by
  obtain ⟨back, blank, whole⟩ := Text.exists_trimEndBy_append Text.isBlank piece
  by_cases shown : (Text.trimEnd piece).dropWhile (· == '\n') = []
  · have feeds : ∀ c ∈ Text.trimEnd piece, Text.isBlank c := fun c member =>
      blank_of_isFeed c (List.dropWhile_eq_nil_iff.mp shown c member)
    have all : ∀ c ∈ piece, Text.isBlank c := by
      rw [whole]
      exact List.forall_mem_append.mpr ⟨feeds, blank⟩
    rw [trimEnd_join_of_blank feeds, trimEnd_join_of_blank all]
  · conv_rhs => rw [whole, join_append shown]
    exact (Text.trimEndBy_append blank _).symm

theorem trimEnd_join_congr {piece other : Text} (same : Text.trimEnd piece = Text.trimEnd other)
    (out : Text) : Text.trimEnd (join out piece) = Text.trimEnd (join out other) := by
  rw [← trimEnd_join_trimEnd, same, trimEnd_join_trimEnd]

/-- A text is a block on lines of its own between two texts, the first of which is the given one but
for white space at its end. -/
def HasBehind (front block rest t : Text) : Prop :=
  ∃ start, t = start ++ '\n' :: (block ++ '\n' :: rest) ∧ Text.trimEnd start = Text.trimEnd front

/-- What is shown of a block is between characters that are no white space. -/
structure IsShown (block : Text) : Prop where
  first : ∃ c rest, block = c :: rest ∧ Text.isBlank c = false
  last : ∃ front c, block = front ++ [c] ∧ Text.isBlank c = false

section Block

variable {b front rest t : Text} (shown : IsShown b)
include shown

theorem IsShown.bare (back : Text) : (b ++ back).dropWhile (· == '\n') = b ++ back := by
  obtain ⟨c, rest, rfl, solid⟩ := shown.first
  exact List.dropWhile_cons_of_neg (by simp [isFeed_of_shown solid])

/-- Behind some line feeds a block comes to stand on lines of its own. -/
theorem exists_join_feeds (n : Nat) (out back : Text) :
    ∃ start, join out (Text.rep (n + 1) '\n' ++ (b ++ back)) = start ++ '\n' :: (b ++ back) ∧
      Text.trimEnd start = Text.trimEnd out := by
  obtain ⟨start, seamed, same⟩ := exists_seam_of_pos (Nat.succ_pos n) out
  refine ⟨start, ?_, same⟩
  rw [join_feeds (shown.bare back) (by simp [List.replicate_succ]), seamed, List.append_assoc,
    List.singleton_append]

/-- A block behind what is written so far. -/
theorem hasBehind_join_block (out : Text) : HasBehind out b ['\n'] (join out (block b)) := by
  have feeds : block b = Text.rep 2 '\n' ++ (b ++ ['\n', '\n']) := rfl
  rw [feeds]
  exact exists_join_feeds shown 1 out _

/-- A fragment behind others. -/
theorem HasBehind.join_left (behind : HasBehind front b rest t) (out : Text) :
    HasBehind (join out front) b rest (join out t) := by
  obtain ⟨start, rfl, same⟩ := behind
  by_cases feeds : start.dropWhile (· == '\n') = []
  · obtain ⟨n, body, rfl, bare⟩ := exists_feeds start
    obtain rfl : body = [] := by
      rw [← bare]
      simpa using feeds
    rw [List.append_nil] at same ⊢
    have split : Text.rep n '\n' ++ '\n' :: (b ++ '\n' :: rest) =
        Text.rep (n + 1) '\n' ++ (b ++ '\n' :: rest) := by
      simp [List.replicate_succ']
    obtain ⟨start, joined, unchanged⟩ := exists_join_feeds shown n out ('\n' :: rest)
    refine ⟨start, split ▸ joined, ?_⟩
    rw [unchanged, ← trimEnd_join_congr same, trimEnd_join_of_blank blank_of_mem_rep]
  · rw [join_append feeds]
    exact ⟨_, rfl, trimEnd_join_congr same out⟩

/-- More fragments behind one with a block. -/
theorem HasBehind.join_right (behind : HasBehind front b rest t) (piece : Text) :
    ∃ more, HasBehind front b more (join t piece) := by
  by_cases empty : piece = []
  · exact ⟨rest, by rwa [empty, join_nil_right]⟩
  · obtain ⟨start, rfl, same⟩ := behind
    obtain ⟨before, c, rfl, solid⟩ := shown.last
    obtain ⟨n, body, rfl, bare⟩ := exists_feeds piece
    obtain ⟨more, seamed⟩ := exists_seam_append solid (start ++ '\n' :: before) rest n
    refine ⟨more ++ body, start, ?_, same⟩
    have split : start ++ '\n' :: (before ++ [c] ++ '\n' :: rest) =
        start ++ '\n' :: before ++ c :: '\n' :: rest := by simp
    rw [split, join_feeds bare empty, seamed]
    simp

end Block

/-! ## Walking to a place in the body -/

section Walk

variable {options : SerializeOptions} {rules : List ElementRule} {parent : String}

/-- Nodes in front of a block are written as if nothing came after them. -/
theorem writeChildren_append_cons {n : Node} (isBlock : isBlockNode n) (before after : List Node)
    (afterBlock : Bool) (pen : Pen) (out : Text) :
    writeChildren options rules parent afterBlock (before ++ n :: after) pen out =
      let written := writeChildren options rules parent afterBlock before pen out
      let piece := writeNode options rules parent n written.2
      writeChildren options rules parent true after piece.2 (join written.1 piece.1) := by
  induction before generalizing afterBlock pen out with
  | nil =>
    simp [writeChildren, isBlankText_of_isBlock isBlock, isBlock]
  | cons first before ih =>
    have same : (before ++ n :: after).head?.all isBlockNode = before.head?.all isBlockNode := by
      cases before with
      | nil => exact isBlock
      | cons _ _ => rfl
    rw [List.cons_append, writeChildren, writeChildren, same]
    split
    · exact ih ..
    · exact ih ..

variable {b : Text} (shown : IsShown b)
include shown

theorem HasBehind.writeChildren {front rest t : Text} (behind : HasBehind front b rest t)
    (afterBlock : Bool) (nodes : List Node) (pen : Pen) :
    ∃ more, HasBehind front b more
      (writeChildren options rules parent afterBlock nodes pen t).1 := by
  induction nodes generalizing afterBlock pen rest t with
  | nil => exact ⟨rest, behind⟩
  | cons n nodes ih =>
    rw [Serialize.writeChildren]
    split
    · exact ih behind _ _
    · obtain ⟨more, behind⟩ := behind.join_right shown _
      exact ih behind _ _

/-- The step from the last child to its parent. -/
theorem HasBehind.writeChildren_concat {m n : Node} (isBlock : isBlockNode m ∧ isBlockNode n)
    {rest : Text} (inner : ∀ pen, HasBehind (writeNode options rules parent m pen).1 b rest
      (writeNode options rules parent n pen).1) (before : List Node) (pen : Pen) :
    HasBehind (Serialize.writeChildren options rules parent true (before ++ [m]) pen []).1 b rest
      (Serialize.writeChildren options rules parent true (before ++ [n]) pen []).1 := by
  rw [writeChildren_append_cons isBlock.1, writeChildren_append_cons isBlock.2]
  exact (inner _).join_left shown _

/-- The step from a child to its parent. -/
theorem HasBehind.writeChildren_append {m n : Node} (isBlock : isBlockNode m ∧ isBlockNode n)
    (inner : ∀ pen, ∃ rest, HasBehind (writeNode options rules parent m pen).1 b rest
      (writeNode options rules parent n pen).1) (before after : List Node) (pen : Pen) :
    ∃ rest, HasBehind (Serialize.writeChildren options rules parent true (before ++ [m]) pen []).1 b
      rest (Serialize.writeChildren options rules parent true (before ++ n :: after) pen []).1 := by
  rw [writeChildren_append_cons isBlock.1, writeChildren_append_cons isBlock.2]
  obtain ⟨rest, inner⟩ := inner _
  exact (inner.join_left shown _).writeChildren shown _ _ _

end Walk

theorem writeNode_body (options : SerializeOptions) (attributes : List Html.Attribute)
    (nodes : List Node) (pen : Pen) :
    (writeNode options ElementRule.defaults "html" (.element "body" attributes nodes) pen).1 =
      (writeChildren options ElementRule.defaults "body" true nodes (pen.dropping true) []).1 := rfl

section Document

variable {options : SerializeOptions} {b : Text} (shown : IsShown b) {n : Node}
  (isBlock : isBlockNode n)
  (written : ∀ pen, (writeNode options ElementRule.defaults "body" n pen).1 = block b)
  (place : BodyPlace)
include shown isBlock written

/-- A block in the body is written behind what is written for the document up to it. -/
theorem hasBehind_document :
    ∃ rest, HasBehind
      (writeChildren options ElementRule.defaults "" true place.preceding ⟨true, false⟩ []).1 b rest
      (writeChildren options ElementRule.defaults "" true (place.document n)
        ⟨true, false⟩ []).1 := by
  refine HasBehind.writeChildren_append shown ⟨rfl, rfl⟩ (fun pen => ?_) place.front place.back _
  refine HasBehind.writeChildren_append shown ⟨rfl, rfl⟩ (fun pen => ?_) place.head place.foot _
  rw [writeNode_body, writeNode_body, writeChildren_append_cons isBlock]
  simp only [written]
  exact (hasBehind_join_block shown _).writeChildren shown _ _ _

theorem hasBehind_next :
    HasBehind
      (writeChildren options ElementRule.defaults "" true place.preceding ⟨true, false⟩ []).1 b
      ['\n'] (writeChildren options ElementRule.defaults "" true (place.next n).preceding
        ⟨true, false⟩ []).1 := by
  refine HasBehind.writeChildren_concat shown ⟨rfl, rfl⟩ (fun pen => ?_) place.front _
  refine HasBehind.writeChildren_concat shown ⟨rfl, rfl⟩ (fun pen => ?_) place.head _
  dsimp only [Html.BodyPlace.next]
  rw [writeNode_body, writeNode_body, writeChildren_append_cons isBlock]
  simp only [written]
  exact hasBehind_join_block shown _

end Document

/-! ## The lines of the document -/

theorem blank_of_isOuter : ∀ c : Char, isOuter c → Text.isBlank c := fun c outer => by
  simp only [isOuter, Bool.or_eq_true, beq_iff_eq] at outer
  rcases outer with (rfl | rfl) | rfl <;> rfl

section Lines

variable {b front rest t : Text} (shown : IsShown b) (behind : HasBehind front b rest t)
include shown behind

/-- The same fence is open in front of the block and behind what is written in front of it. -/
theorem HasBehind.exists_lines :
    ∃ before after, Text.lines (Text.trimBy isOuter t) = before ++ Text.lines b ++ after ∧
      Fence.behindLines none before = Fence.behind none (Text.trimBy isOuter front) := by
  obtain ⟨start, rfl, same⟩ := behind
  have state : Fence.behind none (Text.trimStartBy isOuter start) =
      Fence.behind none (Text.trimBy isOuter front) := by
    rw [Fence.behind_trimStartBy blank_of_isOuter, Fence.behind_trimBy blank_of_isOuter]
    exact Fence.behind_congr same none
  have noOuter {c : Char} (solid : Text.isBlank c = false) : isOuter c = false :=
    Text.eq_false_of_shown (blank_of_isOuter c) solid
  -- The end of the text is trimmed up to the block, or less far.
  have trimmed (before : Text) : ∃ kept after,
      Text.trimEndBy isOuter (before ++ (b ++ '\n' :: rest)) = before ++ (b ++ kept) ∧
        Text.lines (b ++ kept) = Text.lines b ++ after := by
    obtain ⟨init, d, rfl, last⟩ := shown.last
    have split : before ++ (init ++ [d] ++ '\n' :: rest) =
        before ++ init ++ d :: '\n' :: rest := by simp
    obtain ⟨kept, left, trimmed⟩ := Text.exists_trimEndBy_eq_append (p := isOuter) (noOuter last)
      (before ++ init) ('\n' :: rest)
    rw [split, trimmed]
    cases kept with
    | nil => exact ⟨[], [], by simp, by simp⟩
    | cons feed kept =>
      obtain ⟨rfl, _⟩ := List.cons_prefix_cons.mp left
      exact ⟨'\n' :: kept, Text.lines kept, by simp, Text.lines_append_feed _ _⟩
  rw [Text.trimBy, Text.trimStartBy, List.dropWhile_append]
  split
  next nothing =>
    obtain ⟨c, others, whole, solid⟩ := shown.first
    have front : ('\n' :: (b ++ '\n' :: rest)).dropWhile isOuter = [] ++ (b ++ '\n' :: rest) := by
      rw [List.dropWhile_cons_of_pos (by decide), whole]
      exact List.dropWhile_cons_of_neg (by simp [noOuter solid])
    obtain ⟨kept, after, ended, read⟩ := trimmed []
    refine ⟨[], after, ?_, ?_⟩
    · rw [front, ended]
      exact read
    · rw [← state, Text.trimStartBy, List.isEmpty_iff.mp nothing, Fence.behind_nil]
      rfl
  next =>
    obtain ⟨kept, after, ended, read⟩ := trimmed (Text.trimStartBy isOuter start ++ ['\n'])
    refine ⟨Text.lines (Text.trimStartBy isOuter start), after, ?_, state⟩
    have split : Text.trimStartBy isOuter start ++ '\n' :: (b ++ '\n' :: rest) =
        Text.trimStartBy isOuter start ++ ['\n'] ++ (b ++ '\n' :: rest) := by simp
    rw [split, ended, List.append_assoc, List.singleton_append, Text.lines_append_feed, read,
      List.append_assoc]

end Lines

end Serialize

end MarkdownDialects
