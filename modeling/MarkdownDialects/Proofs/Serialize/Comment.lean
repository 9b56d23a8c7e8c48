import MarkdownDialects.Proofs.Serialize.Fragment

/-!
# Comments in what is written

Comments mark what a dialect has no elements for, so none may be lost on the way to Markdown.  A
comment on one line is a part of the Markdown of its document, wherever it stands below elements
whose children are written (`Serialize.comment_isInfix_writeDocument`).
-/

namespace MarkdownDialects

open Html (Node Attribute)
open Text (IsMark)

/-- A comment stands below some nodes, in elements with the names of the path, outermost first. -/
inductive Html.CommentBelow (c : Text) : List String → List Node → Prop
  | here {nodes : List Node} : .comment c ∈ nodes → CommentBelow c [] nodes
  | inside {tag : String} {attributes : List Attribute} {content nodes : List Node}
      {path : List String} :
      .element tag attributes content ∈ nodes → CommentBelow c path content →
        CommentBelow c (tag :: path) nodes

open Html (CommentBelow)

/-- A rule that writes the content of an element as it is. -/
def ElementRule.KeepsContent (rule : ElementRule) : Prop :=
  ∀ e content options, content <:+: rule.write e content options

theorem ElementRule.keepsContent_affix (name tag : String) (required : Option String)
    (before after : Text) (shown : Option String) :
    (affix name tag required before after shown).KeepsContent := by
  intro e content options
  refine ⟨before, ((shown.bind e.attribute?).getD []) ++ after, ?_⟩
  simp [affix]

theorem ElementRule.keepsContent_of_mem_defaults {rule : ElementRule} (member : rule ∈ defaults) :
    rule.KeepsContent := by
  rw [List.mem_singleton.mp member, spoiler]
  intro e content options
  exact keepsContent_affix _ _ _ _ _ _ e content options

namespace Serialize

/-- Elements whose children are not written. -/
def unwalkedTags : List String := hiddenTags ++ ["pre", "code", "br", "hr", "img", "input"]

/-- Whether a path leads into a cell from a row on. -/
def reachesCell : List String → Bool
  | row :: cell :: _ => row == "tr" && isCellName cell
  | _ => false

/-- Whether the children of an element with the given name are written where a path leads. -/
def entersBy (tag : String) (path : List String) : Bool :=
  if tag == "ul" || tag == "ol" then path.head? == some "li"
  else if tag == "table" then
    reachesCell path || (path.head?.any rowGroups.contains && reachesCell path.tail)
  else !unwalkedTags.contains tag

/-- Whether all that a path leads through is written. -/
def isWalked : List String → Bool
  | [] => true
  | tag :: path => entersBy tag path && isWalked path

section Walk

variable {mark : Text} {options : SerializeOptions} {rules : List ElementRule}
  {nodes content : List Node} {tag : String} {attributes : List Attribute}

theorem isInfix_writeChildren_of_out (isMark : IsMark mark) {out : Text} (part : mark <:+: out)
    (parent : String) (afterBlock : Bool) (nodes : List Node) (pen : Pen) :
    mark <:+: (writeChildren options rules parent afterBlock nodes pen out).1 := by
  induction nodes generalizing afterBlock pen out with
  | nil => simpa only [writeChildren] using part
  | cons n rest ih =>
    rw [writeChildren]
    split
    · exact ih part _ _
    · exact ih (isInfix_join_left isMark part _) _ _

/-- What is written for a node is in what is written for its parent, if it is not white space. -/
theorem isInfix_writeChildren (isMark : IsMark mark) {parent : String} {n : Node}
    (member : n ∈ nodes) (shown : isBlankText n = false)
    (part : ∀ pen, mark <:+: (writeNode options rules parent n pen).1) (afterBlock : Bool)
    (pen : Pen) (out : Text) :
    mark <:+: (writeChildren options rules parent afterBlock nodes pen out).1 := by
  induction nodes generalizing afterBlock pen out with
  | nil => exact absurd member List.not_mem_nil
  | cons first rest ih =>
    rw [writeChildren]
    rcases List.mem_cons.mp member with rfl | later
    · rw [if_neg (by simp [shown])]
      exact isInfix_writeChildren_of_out isMark (isInfix_join_right isMark (part pen) out) ..
    · split
      · exact ih later _ _ _
      · exact ih later _ _ _

theorem isInfix_writeItems (isMark : IsMark mark)
    (member : .element "li" attributes content ∈ nodes)
    (part : ∀ pen, mark <:+: (writeChildren options rules "li" true content pen []).1)
    (sign : Nat → Text) (index : Nat) (pen : Pen) :
    ∃ item ∈ (writeItems options rules sign index nodes pen).1, mark <:+: item := by
  induction nodes generalizing index pen with
  | nil => exact absurd member List.not_mem_nil
  | cons first rest ih =>
    rcases List.mem_cons.mp member with rfl | later
    · rw [writeItems, if_pos (beq_self_eq_true _)]
      exact ⟨_, List.mem_cons_self, isInfix_listItem isMark (part _) _⟩
    · cases first with
      | text t => exact ih later _ _
      | comment t => exact ih later _ _
      | element name _ _ =>
        rw [writeItems]
        split
        · obtain ⟨item, present, inside⟩ := ih later (index + 1) _
          exact ⟨item, List.mem_cons_of_mem _ present, inside⟩
        · exact ih later _ _

theorem isInfix_writeCells (isMark : IsMark mark) (cell : isCellName tag)
    (member : .element tag attributes content ∈ nodes)
    (part : ∀ pen, mark <:+: (writeChildren options rules tag true content pen []).1) (pen : Pen) :
    ∃ cell ∈ (writeCells options rules nodes pen).1, mark <:+: cell := by
  induction nodes generalizing pen with
  | nil => exact absurd member List.not_mem_nil
  | cons first rest ih =>
    rcases List.mem_cons.mp member with rfl | later
    · rw [writeCells, if_pos cell]
      exact ⟨_, List.mem_cons_self, isInfix_cellText isMark (part _)⟩
    · cases first with
      | text t => exact ih later _
      | comment t => exact ih later _
      | element name _ _ =>
        rw [writeCells]
        split
        · obtain ⟨cell, present, inside⟩ := ih later _
          exact ⟨cell, List.mem_cons_of_mem _ present, inside⟩
        · exact ih later _

/-- Some cell of some row has a part. -/
def InSomeCell (mark : Text) (rows : List (List Text)) : Prop :=
  ∃ row ∈ rows, ∃ cell ∈ row, mark <:+: cell

theorem InSomeCell.mono {rows others : List (List Text)} (found : InSomeCell mark rows)
    (subset : rows ⊆ others) : InSomeCell mark others := by
  obtain ⟨row, present, inside⟩ := found
  exact ⟨row, subset present, inside⟩

theorem inSomeCell_writeGroup (member : .element "tr" attributes content ∈ nodes)
    (part : ∀ pen, ∃ cell ∈ (writeCells options rules content pen).1, mark <:+: cell) (pen : Pen) :
    InSomeCell mark (writeGroup options rules nodes pen).1 := by
  induction nodes generalizing pen with
  | nil => exact absurd member List.not_mem_nil
  | cons first rest ih =>
    rcases List.mem_cons.mp member with rfl | later
    · rw [writeGroup, if_pos (beq_self_eq_true _)]
      exact ⟨_, List.mem_cons_self, part pen⟩
    · cases first with
      | text t => exact ih later _
      | comment t => exact ih later _
      | element name _ _ =>
        rw [writeGroup]
        split
        · exact (ih later _).mono (List.subset_cons_self _ _)
        · exact ih later _

/-- The rows of a table stand in the table or in parts of it. -/
theorem inSomeCell_writeRows (member : .element tag attributes content ∈ nodes)
    (place : tag = "tr" ∨ rowGroups.contains tag)
    (row : tag = "tr" → ∀ pen, ∃ cell ∈ (writeCells options rules content pen).1, mark <:+: cell)
    (group : rowGroups.contains tag →
      ∀ pen, InSomeCell mark (writeGroup options rules content pen).1) (pen : Pen) :
    InSomeCell mark (writeRows options rules nodes pen).1 := by
  induction nodes generalizing pen with
  | nil => exact absurd member List.not_mem_nil
  | cons first rest ih =>
    rcases List.mem_cons.mp member with rfl | later
    · rw [writeRows]
      split_ifs with isRow isGroup
      · exact ⟨_, List.mem_cons_self, row (beq_iff_eq.mp isRow) pen⟩
      · exact (group isGroup pen).mono (List.subset_append_left _ _)
      · rcases place with rfl | grouped
        · exact absurd rfl isRow
        · exact absurd grouped isGroup
    · cases first with
      | text t => exact ih later _
      | comment t => exact ih later _
      | element name _ _ =>
        rw [writeRows]
        split_ifs
        · exact (ih later _).mono (List.subset_cons_self _ _)
        · exact (ih later _).mono (List.subset_append_right _ _)
        · exact ih later _

theorem leaf?_eq_none (walked : unwalkedTags.contains tag = false) (pen : Pen) :
    leaf? options ⟨tag, attributes⟩ content pen = none := by
  have absent : tag ∉ unwalkedTags := by simpa using walked
  have shown : tag ∉ hiddenTags := fun hidden => absent (List.mem_append_left _ hidden)
  have other {name : String} (unwalked : name ∈ ["pre", "code", "br", "hr", "img", "input"]) :
      (tag == name) = false := by
    rw [beq_eq_false_iff_ne]
    rintro rfl
    exact absent (List.mem_append_right _ unwalked)
  simp [leaf?, shown, other]

theorem isInfix_writeNode (isMark : IsMark mark) (keep : ∀ rule ∈ rules, rule.KeepsContent)
    (walked : unwalkedTags.contains tag = false)
    (children : ∀ pen, mark <:+: (writeChildren options rules tag true content pen []).1)
    (items : (tag == "ul" || tag == "ol") → ∀ sign pen,
      ∃ item ∈ (writeItems options rules sign 0 content pen).1, mark <:+: item)
    (rows : tag = "table" → ∀ pen, InSomeCell mark (writeRows options rules content pen).1)
    (parent : String) (pen : Pen) :
    mark <:+: (writeNode options rules parent (.element tag attributes content) pen).1 := by
  rw [writeNode]
  dsimp only
  -- The pen decides about white space only, so the cases are the same for every pen.
  generalize (if blockTags.contains tag then pen.dropping true else pen) = pen
  cases found : rules.find? fun rule => rule.applies ⟨tag, attributes⟩ with
  | some rule =>
    exact (children pen).trans (keep rule (List.mem_of_find?_eq_some found) _ _ _)
  | none =>
    rw [leaf?_eq_none walked]
    dsimp only
    split_ifs with isList isTable isItem
    · obtain ⟨item, present, inside⟩ := items isList _ pen
      exact isInfix_listBlock inside present _ _
    · obtain ⟨row, present, cell, inRow, inside⟩ := rows (beq_iff_eq.mp isTable) pen
      exact isInfix_tableBlock inside inRow present _
    · exact isInfix_block (isInfix_listItem isMark (children pen) _)
    · exact isInfix_wrap isMark (children pen) options _

end Walk

section Comment

variable {c : Text} {options : SerializeOptions} {rules : List ElementRule}

theorem isMark_comment (oneLine : '\n' ∉ c) : IsMark ("<!--".toList ++ c ++ "-->".toList) where
  nonempty := List.cons_ne_nil _ _
  head _ first := Option.some.inj first ▸ rfl
  last _ final := by
    rw [List.getLast?_append] at final
    exact Option.some.inj final ▸ rfl
  oneLine := by simp [oneLine]

theorem isInfix_writeComment (parent : String) (c : Text) (pen : Pen) :
    ("<!--".toList ++ c ++ "-->".toList) <:+: (writeComment parent c pen).1 := by
  simp only [writeComment]
  split
  · exact isInfix_block (List.infix_refl _)
  · exact List.infix_refl _

theorem exists_element_of_below {tag : String} {path : List String} {nodes : List Node}
    (below : CommentBelow c (tag :: path) nodes) :
    ∃ attributes content,
      .element tag attributes content ∈ nodes ∧ CommentBelow c path content := by
  cases below with
  | inside member below => exact ⟨_, _, member, below⟩

theorem unwalkedTags_of_entersBy {tag : String} {path : List String} (enters : entersBy tag path) :
    unwalkedTags.contains tag = false := by
  rw [entersBy] at enters
  split_ifs at enters with isList isTable
  · rcases Bool.or_eq_true_iff.mp isList with same | same <;> rw [beq_iff_eq.mp same] <;> rfl
  · rw [beq_iff_eq.mp isTable]
    rfl
  · simpa using enters

theorem exists_of_reachesCell {path : List String} (reaches : reachesCell path) :
    ∃ cell rest, path = "tr" :: cell :: rest ∧ isCellName cell := by
  unfold reachesCell at reaches
  split at reaches
  next row cell rest =>
    obtain ⟨isRow, isCell⟩ := Bool.and_eq_true_iff.mp reaches
    exact ⟨cell, rest, by rw [beq_iff_eq.mp isRow], isCell⟩
  next => exact absurd reaches Bool.false_ne_true

theorem isWalked_of_isSuffix {path rest : List String} (walked : isWalked path)
    (suffix : rest <:+ path) : isWalked rest := by
  induction path with
  | nil => rwa [List.suffix_nil.mp suffix]
  | cons tag path ih =>
    rcases List.suffix_cons_iff.mp suffix with rfl | shorter
    · exact walked
    · exact ih (Bool.and_eq_true_iff.mp walked).2 shorter

/-- The comment is in what is written for nodes that it stands below by a path. -/
def IsKept (c : Text) (options : SerializeOptions) (rules : List ElementRule)
    (path : List String) : Prop :=
  ∀ nodes, CommentBelow c path nodes → ∀ parent afterBlock pen out,
    ("<!--".toList ++ c ++ "-->".toList) <:+:
      (writeChildren options rules parent afterBlock nodes pen out).1

theorem IsKept.writeCells {path : List String} (kept : IsKept c options rules path)
    (oneLine : '\n' ∉ c) {cell : String} (isCell : isCellName cell) {nodes : List Node}
    (below : CommentBelow c (cell :: path) nodes) (pen : Pen) :
    ∃ cell ∈ (writeCells options rules nodes pen).1,
      ("<!--".toList ++ c ++ "-->".toList) <:+: cell := by
  obtain ⟨_, content, member, below⟩ := exists_element_of_below below
  exact isInfix_writeCells (isMark_comment oneLine) isCell member
    (fun pen => kept content below _ _ pen _) pen

/-- The rows of a table have the comment, if the paths behind its cells keep it. -/
theorem IsKept.writeRows {path : List String} (oneLine : '\n' ∉ c)
    (kept : ∀ rest, rest <:+ path → IsKept c options rules rest)
    (enters : entersBy "table" path) {nodes : List Node} (below : CommentBelow c path nodes)
    (pen : Pen) :
    InSomeCell ("<!--".toList ++ c ++ "-->".toList) (writeRows options rules nodes pen).1 := by
  -- The row is a child of the table itself or of one of its parts.
  rcases Bool.or_eq_true_iff.mp enters with reaches | grouped
  · obtain ⟨cell, rest, rfl, isCell⟩ := exists_of_reachesCell reaches
    obtain ⟨_, _, row, below⟩ := exists_element_of_below below
    have cells := (kept rest ⟨["tr", cell], rfl⟩).writeCells oneLine isCell below
    exact inSomeCell_writeRows row (.inl rfl) (fun _ => cells)
      (fun group => absurd group (by decide)) pen
  · obtain ⟨isGroup, reaches⟩ := Bool.and_eq_true_iff.mp grouped
    cases path with
    | nil => exact absurd isGroup Bool.false_ne_true
    | cons group path =>
      obtain ⟨cell, rest, rfl, isCell⟩ := exists_of_reachesCell reaches
      obtain ⟨_, _, part, below⟩ := exists_element_of_below below
      obtain ⟨_, _, row, below⟩ := exists_element_of_below below
      have cells := (kept rest ⟨[group, "tr", cell], rfl⟩).writeCells oneLine isCell below
      have isGroup : rowGroups.contains group := isGroup
      refine inSomeCell_writeRows part (.inr isGroup) ?_
        (fun _ => inSomeCell_writeGroup row cells) pen
      rintro rfl
      exact absurd isGroup (by decide)

/-- The induction is on the path; a list or a table takes the next steps of the path with it. -/
theorem isKept_of_isWalked (keep : ∀ rule ∈ rules, rule.KeepsContent) (oneLine : '\n' ∉ c)
    {path : List String} (walked : isWalked path) : IsKept c options rules path := by
  have isMark := isMark_comment oneLine
  intro nodes below parent afterBlock pen out
  cases path with
  | nil =>
    cases below with
    | here member =>
      refine isInfix_writeChildren isMark member rfl (fun pen => ?_) ..
      rw [writeNode]
      exact isInfix_writeComment parent c pen
  | cons tag path =>
    obtain ⟨attributes, content, member, below⟩ := exists_element_of_below below
    obtain ⟨enters, walked⟩ := Bool.and_eq_true_iff.mp walked
    have later : ∀ rest, rest <:+ path → IsKept c options rules rest := by
      intro rest suffix
      have shorter : rest.length < (tag :: path).length :=
        Nat.lt_succ_of_le suffix.length_le
      exact isKept_of_isWalked keep oneLine (isWalked_of_isSuffix walked suffix)
    refine isInfix_writeChildren isMark member rfl (isInfix_writeNode isMark keep
      (unwalkedTags_of_entersBy enters) (fun pen => ?children) (fun isList sign pen => ?items)
      (fun isTable pen => ?rows) parent) ..
    case children => exact later path List.suffix_rfl content below _ _ _ _
    case items =>
      rw [entersBy, if_pos isList, beq_iff_eq] at enters
      obtain ⟨path, rfl⟩ := List.head?_eq_some_iff.mp enters
      obtain ⟨_, content, member, below⟩ := exists_element_of_below below
      exact isInfix_writeItems isMark member
        (fun pen => later path (List.suffix_cons "li" path) content below _ _ _ _) ..
    case rows =>
      rw [isTable] at enters
      exact IsKept.writeRows oneLine later enters below pen
termination_by path.length

/-- **Comments are not lost.** -/
theorem comment_isInfix_writeDocument (options : SerializeOptions) (oneLine : '\n' ∉ c)
    {path : List String} (walked : isWalked path) {nodes : List Node}
    (below : CommentBelow c path nodes) :
    ("<!--".toList ++ c ++ "-->".toList) <:+:
      writeDocument options ElementRule.defaults nodes := by
  have isMark := isMark_comment oneLine
  have kept : IsKept c options ElementRule.defaults path :=
    isKept_of_isWalked (fun _ => ElementRule.keepsContent_of_mem_defaults) oneLine walked
  have written := kept nodes below "" true ⟨true, false⟩ []
  refine Text.isInfix_trimBy written isMark.nonempty (fun _ first => ?_) fun _ final => ?_
  · exact Option.some.inj first ▸ rfl
  · rw [List.getLast?_append] at final
    exact Option.some.inj final ▸ rfl

/-- A comment in a cell of a table in an item of a list. -/
theorem comment_isInfix_writeDocument_of_cell :
    '\n' ∉ "a | b".toList ∧ isWalked ["ul", "li", "table", "tbody", "tr", "td", "em"] ∧
      "<!--a | b-->".toList <:+: writeDocument {} ElementRule.defaults
        [.element "ul" [] [.element "li" [] [.text ['x'], .element "table" []
          [.element "tbody" [] [.element "tr" [] [.element "td" []
            [.element "em" [] [.text ['y'], .comment "a | b".toList]]]]]]]] := by
  have oneLine : '\n' ∉ "a | b".toList := by decide
  have walked : isWalked ["ul", "li", "table", "tbody", "tr", "td", "em"] := by decide
  refine ⟨oneLine, walked, comment_isInfix_writeDocument {} oneLine walked ?_⟩
  refine .inside List.mem_cons_self <| .inside List.mem_cons_self <|
    .inside (.tail _ List.mem_cons_self) <| .inside List.mem_cons_self <|
    .inside List.mem_cons_self <| .inside List.mem_cons_self <|
    .inside List.mem_cons_self <| .here ?_
  exact .tail _ List.mem_cons_self

end Comment

end Serialize

end MarkdownDialects
