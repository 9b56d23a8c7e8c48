import MarkdownDialects.Proofs.Layout.Lead
import MarkdownDialects.Proofs.Serialize.ItemText

/-!
# Trees of tight lists

A list whose items hold a text, and maybe a list below it, is written with one line for each item
(`Serialize.lines_writeDocument_list`).  The lines of the lists below an item are cut and put
together again at every level above, each time with the spaces of one more mark in front.
-/

namespace MarkdownDialects

namespace Serialize

open Html (Attribute Node)

/-- The content of a tight list: items with a text and maybe a list below it.  Other nodes between
the items, such as line ends, are not written. -/
inductive Outline
  | done
  | other (n : Node) (noItem : n.isNamed "li" = false) (rest : Outline)
  | leaf (attributes : List Attribute) (text : ItemText) (rest : Outline)
  | branch (attributes : List Attribute) (text : ItemText) (list : Element) (below rest : Outline)

namespace Outline

/-- The nodes of the content. -/
def nodes : Outline → List Node
  | done => []
  | other n _ rest => n :: rest.nodes
  | leaf attributes t rest => .element "li" attributes [.text t.text] :: rest.nodes
  | branch attributes t list below rest =>
    .element "li" attributes [.text t.text, .element list.tag list.attributes below.nodes] ::
      rest.nodes

/-- How many items there are, without the items below them. -/
def count : Outline → Nat
  | done => 0
  | other _ _ rest => rest.count
  | leaf _ _ rest | branch _ _ _ _ rest => rest.count + 1

/-- Whether an element is a list that can have this many items: one at least, and numbers of 64 bits
if they are numbered. -/
def IsListOf (list : Element) (count : Nat) : Prop :=
  0 < count ∧ (list.tag = "ul" ∨ list.tag = "ol" ∧ listStart list + count < Numeral.bound)

theorem IsListOf.fits {list : Element} {count : Nat} (isList : IsListOf list count)
    (numbered : list.tag = "ol") : listStart list + (0 + count) ≤ Numeral.bound := by
  rcases isList.2 with bulleted | ⟨-, least⟩
  · exact absurd (numbered.symm.trans bulleted) (by decide)
  · omega

/-- Every list below an item can have the items it has. -/
def IsTight : Outline → Prop
  | done => True
  | other _ _ rest | leaf _ _ rest => rest.IsTight
  | branch _ _ list below rest => IsListOf list below.count ∧ below.IsTight ∧ rest.IsTight

/-- The mark of an item, given its place in the list: its number and a full stop, or a hyphen. -/
def mark (list : Element) (index : Nat) : Text :=
  if list.tag = "ol" then Numeral.digits (listStart list + index) ++ ['.', ' '] else ['-', ' ']

/-- The lines of a list that is indented, one for each item: the spaces, the mark and the text.
Below an item the spaces are more by the width of its mark. -/
def lines (indent : Nat) (list : Element) : Nat → Outline → List Text
  | _, done => []
  | index, other _ _ rest => rest.lines indent list index
  | index, leaf _ t rest =>
    (Text.rep indent ' ' ++ (mark list index ++ t.written)) :: rest.lines indent list (index + 1)
  | index, branch _ t nested below rest =>
    (Text.rep indent ' ' ++ (mark list index ++ t.written)) ::
      (below.lines (indent + (mark list index).length) nested 0 ++
        rest.lines indent list (index + 1))

section Lines

variable (list : Element) (index : Nat)

theorem mark_eq_itemMark (fits : list.tag = "ol" → listStart list + index < Numeral.bound) :
    mark list index = itemMark {} list index := by
  unfold mark itemMark
  by_cases numbered : list.tag = "ol"
  · rw [if_pos numbered, if_pos (by simpa using numbered), Nat.mod_eq_of_lt (fits numbered)]
  · rw [if_neg numbered, if_neg (by simpa using numbered)]

theorem shown_of_mem_digits {n : Nat} {c : Char} (member : c ∈ Numeral.digits n) :
    Text.isBlank c = false :=
  Line.isBlank_of_isDigit (Nat.isDigit_of_mem_toDigits (by decide) (by decide) member)

theorem exists_mark_cons : ∃ c rest, mark list index = c :: rest ∧ Text.isBlank c = false := by
  unfold mark
  split
  · obtain ⟨c, rest, whole⟩ := List.exists_cons_of_ne_nil
      (Nat.toDigits_ne_nil (n := listStart list + index) (b := 10))
    refine ⟨c, rest ++ ['.', ' '], by rw [Numeral.digits, whole]; rfl, ?_⟩
    exact shown_of_mem_digits (n := listStart list + index)
      (by rw [Numeral.digits, whole]; exact List.mem_cons_self)
  · exact ⟨'-', [' '], rfl, rfl⟩

theorem feed_not_mem_mark : '\n' ∉ mark list index := by
  unfold mark
  split
  · rw [List.mem_append, not_or]
    exact ⟨fun member => absurd (shown_of_mem_digits member) (by decide), by decide⟩
  · decide

variable {list index}

theorem isItemLine_item (indent : Nat) (t : ItemText) :
    IsItemLine (Text.rep indent ' ' ++ (mark list index ++ t.written)) :=
  (t.isItemLine_written.append_left (feed_not_mem_mark list index)).append_left fun member =>
    absurd (List.eq_of_mem_replicate member) (by decide)

theorem isItemLine_of_mem_lines (o : Outline) {indent : Nat} {line : Text}
    (member : line ∈ o.lines indent list index) : IsItemLine line := by
  induction o generalizing indent list index with
  | done => exact absurd member List.not_mem_nil
  | other _ _ rest ih => exact ih member
  | leaf _ t rest ih =>
    rcases List.mem_cons.mp member with rfl | later
    · exact isItemLine_item indent t
    · exact ih later
  | branch _ t nested below rest ihBelow ih =>
    rcases List.mem_cons.mp member with rfl | later
    · exact isItemLine_item indent t
    · exact (List.mem_append.mp later).elim ihBelow ih

/-- More spaces in front of a list are more spaces in front of each of its lines. -/
theorem lines_add (o : Outline) (k indent : Nat) :
    o.lines (k + indent) list index =
      (o.lines indent list index).map (Text.rep k ' ' ++ ·) := by
  have further (indent : Nat) (line : Text) :
      Text.rep (k + indent) ' ' ++ line = Text.rep k ' ' ++ (Text.rep indent ' ' ++ line) := by
    rw [Text.rep, List.replicate_add, List.append_assoc]
  induction o generalizing indent list index with
  | done => rfl
  | other _ _ rest ih => exact ih indent
  | leaf _ t rest ih => rw [lines, lines, List.map_cons, further, ih]
  | branch _ t nested below rest ihBelow ih =>
    rw [lines, lines, List.map_cons, List.map_append, further, ih, Nat.add_assoc, ihBelow]

theorem exists_lines_cons (list : Element) (index : Nat) {o : Outline} (positive : 0 < o.count) :
    ∃ (t : ItemText) (others : List Text),
      o.lines 0 list index = (mark list index ++ t.written) :: others := by
  induction o with
  | done => exact absurd positive (Nat.lt_irrefl 0)
  | other _ _ rest ih => exact ih positive
  | leaf _ t rest => exact ⟨t, _, rfl⟩
  | branch _ t nested below rest => exact ⟨t, _, rfl⟩

theorem isShown_unlines_lines {o : Outline} (positive : 0 < o.count) :
    IsShown (Text.unlines (o.lines 0 list index)) := by
  obtain ⟨t, others, whole⟩ := exists_lines_cons list index positive
  obtain ⟨c, rest, first, solid⟩ := exists_mark_cons list index
  have clean : ∀ line ∈ (mark list index ++ t.written) :: others, IsItemLine line :=
    fun line member => isItemLine_of_mem_lines o (whole ▸ member)
  obtain ⟨back, start⟩ := Text.exists_unlines_cons (mark list index ++ t.written) others
  rw [whole]
  exact ⟨⟨c, rest ++ t.written ++ back, by rw [start, first]; rfl, solid⟩,
    exists_unlines_concat clean⟩

end Lines

/-- Texts that are the same as some lines when they are put together. -/
structure AreJoined (items lines : List Text) : Prop where
  same : Text.unlines items = Text.unlines lines
  empty : items = [] ↔ lines = []

theorem AreJoined.cons {items lines : List Text} (joined : AreJoined items lines) (line : Text)
    (more : List Text) :
    AreJoined (Text.unlines (line :: more) :: items) (line :: (more ++ lines)) where
  empty := iff_of_false (List.cons_ne_nil _ _) (List.cons_ne_nil _ _)
  same := by
    by_cases none : items = []
    · rw [none, joined.empty.mp none, List.append_nil]
      exact List.intercalate_singleton
    · have some : lines ≠ [] := fun empty => none (joined.empty.mpr empty)
      obtain ⟨item, items, rfl⟩ := List.exists_cons_of_ne_nil none
      rw [Text.unlines_cons_cons, joined.same, ← List.cons_append, Text.unlines_append some,
        Text.terminated_eq_unlines (List.cons_ne_nil _ _), List.append_assoc,
        List.singleton_append]

/-- What is written for the items, the first with the mark for `index`, are the lines. -/
def WritesLines (list : Element) (index : Nat) (o : Outline) : Prop :=
  ∀ pen : Pen, pen.inCell = false → ∃ items next,
    writeItems {} ElementRule.defaults (itemMark {} list) index o.nodes pen = (items, next) ∧
      next.inCell = false ∧ AreJoined items (o.lines 0 list index)

section Write

variable {list : Element} {index : Nat}

theorem dropping_of_plain {pen : Pen} (plain : pen.inCell = false) (drops : Bool) :
    pen.dropping drops = ⟨drops, false⟩ := by
  rw [← plain]
  rfl

theorem writeItems_of_no_item {n : Node} (noItem : n.isNamed "li" = false) (mark : Nat → Text)
    (rest : List Node) (pen : Pen) :
    writeItems {} ElementRule.defaults mark index (n :: rest) pen =
      writeItems {} ElementRule.defaults mark index rest pen := by
  cases n with
  | text t | comment t => rfl
  | element tag attributes content =>
    have other : (tag == "li") = false := by simpa [Node.isNamed, Node.name?] using noItem
    rw [writeItems, if_neg (by simp [other])]

/-- The step for an item: its content is a line and what is below it. -/
theorem WritesLines.item {o : Outline} (written : o.WritesLines list (index + 1))
    (fits : list.tag = "ol" → listStart list + index < Numeral.bound) (attributes : List Attribute)
    {content : List Node} {first : Text} {below : List Text} {n : Nat} {next : Pen}
    (clean : ∀ line ∈ first :: below, IsItemLine line) (plain : next.inCell = false)
    (inside : writeChildren {} ElementRule.defaults "li" true content ⟨true, false⟩ [] =
      (Text.unlines (first :: below) ++ Text.rep n '\n', next))
    {pen : Pen} (start : pen.inCell = false) :
    ∃ items last,
      writeItems {} ElementRule.defaults (itemMark {} list) index
          (.element "li" attributes content :: o.nodes) pen = (items, last) ∧
        last.inCell = false ∧
        AreJoined items ((mark list index ++ first) ::
          (below.map (Text.rep (mark list index).length ' ' ++ ·) ++
            o.lines 0 list (index + 1))) := by
  obtain ⟨items, last, others, ends, joined⟩ := written next plain
  refine ⟨_, last, ?_, ends, joined.cons _ _⟩
  rw [writeItems, if_pos (beq_self_eq_true "li"), dropping_of_plain start, inside]
  simp only [others, ← mark_eq_itemMark list index fits, listItem_unlines clean]

theorem isLoose_nodes {o : Outline} (tight : o.IsTight) : isLoose o.nodes = false := by
  induction o with
  | done => rfl
  | other n noItem rest ih =>
    rw [nodes, isLoose, List.any_cons, noItem, Bool.false_and, Bool.false_or]
    exact ih tight
  | leaf _ t rest ih => exact ih tight
  | branch _ t nested below rest _ ih =>
    obtain ⟨⟨-, kind⟩, -, others⟩ := tight
    have noParagraph : (nested.tag == "p") = false := by
      rcases kind with bulleted | ⟨numbered, -⟩
      · rw [bulleted]; rfl
      · rw [numbered]; rfl
    rw [nodes, isLoose, List.any_cons, ← isLoose, ih others, Bool.or_false]
    simp [Node.children, Node.isNamed, Node.name?, noParagraph]

/-- A list is written as its lines, given what is written for its items. -/
theorem WritesLines.writeNode {o : Outline} (written : o.WritesLines list 0) (tight : o.IsTight)
    (isList : IsListOf list o.count) (parent : String) {pen : Pen} (plain : pen.inCell = false) :
    ∃ next, writeNode {} ElementRule.defaults parent
        (.element list.tag list.attributes o.nodes) pen =
      (if parent == "li" then '\n' :: Text.unlines (o.lines 0 list 0) ++ ['\n']
        else block (Text.unlines (o.lines 0 list 0)), next) ∧ next.inCell = false := by
  obtain ⟨items, next, inside, ends, joined⟩ := written (pen.dropping true) plain
  refine ⟨next.dropping true, ?_, ends⟩
  have step : Serialize.writeNode {} ElementRule.defaults parent
      (.element list.tag list.attributes o.nodes) pen =
        (fun written => (listBlock parent o.nodes written.1, written.2.dropping true))
          (writeItems {} ElementRule.defaults (itemMark {} list) 0 o.nodes
            (pen.dropping true)) := by
    obtain ⟨tag, attributes⟩ := list
    rcases isList.2 with bulleted | ⟨numbered, -⟩
    · obtain rfl : tag = "ul" := bulleted
      rfl
    · obtain rfl : tag = "ol" := numbered
      rfl
  rw [step, inside, ← joined.same]
  simp only [listBlock, isLoose_nodes tight, Bool.false_eq_true, if_false]

theorem writeChildren_text (t : ItemText) (rest : List Node) :
    writeChildren {} ElementRule.defaults "li" true (.text t.text :: rest) ⟨true, false⟩ [] =
      writeChildren {} ElementRule.defaults "li" false rest ⟨false, false⟩ t.written := by
  have shown : isBlankText (.text t.text) = false := t.shown
  have text : Serialize.writeNode {} ElementRule.defaults "li" (.text t.text) ⟨true, false⟩ =
      (t.written, ⟨false, false⟩) := t.writeText_eq
  rw [writeChildren, shown, Bool.false_and, if_neg Bool.false_ne_true, text]
  dsimp only
  rw [join_nil_solid t.isShown_written.isSolid]
  rfl

/-- The content of an item with a list below its text, given what is written for the list. -/
theorem writeChildren_text_list (t : ItemText) {nested : Element} {below : Outline}
    (positive : 0 < below.count) {next : Pen}
    (written : Serialize.writeNode {} ElementRule.defaults "li"
      (.element nested.tag nested.attributes below.nodes) ⟨false, false⟩ =
        ('\n' :: Text.unlines (below.lines 0 nested 0) ++ ['\n'], next)) :
    writeChildren {} ElementRule.defaults "li" true
        [.text t.text, .element nested.tag nested.attributes below.nodes] ⟨true, false⟩ [] =
      (Text.unlines (t.written :: below.lines 0 nested 0) ++ Text.rep 1 '\n', next) := by
  have listed : Text.unlines (t.written :: below.lines 0 nested 0) =
      t.written ++ '\n' :: Text.unlines (below.lines 0 nested 0) := by
    obtain ⟨u, others, whole⟩ := exists_lines_cons nested 0 positive
    rw [whole, Text.unlines_cons_cons]
  rw [writeChildren_text, writeChildren]
  simp only [isBlankText, Bool.false_and, Bool.false_eq_true, if_false, written,
    join_below t.isShown_written (isShown_unlines_lines positive), listed]
  rfl

theorem fits_succ {more : Nat}
    (fits : list.tag = "ol" → listStart list + (index + (more + 1)) ≤ Numeral.bound) :
    (list.tag = "ol" → listStart list + index < Numeral.bound) ∧
      (list.tag = "ol" → listStart list + (index + 1 + more) ≤ Numeral.bound) := by
  refine ⟨fun numbered => ?_, fun numbered => ?_⟩ <;>
    · have all := fits numbered
      omega

/-- **The items of a list are written as its lines.** -/
theorem writesLines {o : Outline} (tight : o.IsTight)
    (fits : list.tag = "ol" → listStart list + (index + o.count) ≤ Numeral.bound) :
    o.WritesLines list index := by
  induction o generalizing list index with
  | done => exact fun pen plain => ⟨[], pen, rfl, plain, rfl, iff_of_true rfl rfl⟩
  | other n noItem rest ih =>
    intro pen plain
    rw [nodes, writeItems_of_no_item noItem]
    exact ih tight fits pen plain
  | leaf attributes t rest ih =>
    obtain ⟨here, later⟩ := fits_succ fits
    have inside : writeChildren {} ElementRule.defaults "li" true [.text t.text] ⟨true, false⟩ [] =
        (Text.unlines [t.written] ++ Text.rep 0 '\n', ⟨false, false⟩) := by
      rw [writeChildren_text, Text.rep, List.replicate_zero, List.append_nil]
      exact congrArg (·, _) List.intercalate_singleton.symm
    exact fun pen plain =>
      (ih tight later).item here attributes (List.forall_mem_singleton.mpr t.isItemLine_written) rfl
        inside plain
  | branch attributes t nested below rest ihBelow ih =>
    obtain ⟨isList, belowTight, tight⟩ := tight
    obtain ⟨here, later⟩ := fits_succ fits
    -- The list below is written for itself and then indented by the mark of this item.
    have plainText : (⟨false, false⟩ : Pen).inCell = false := rfl
    obtain ⟨next, written, ends⟩ :=
      (ihBelow belowTight isList.fits).writeNode belowTight isList "li" plainText
    have inside := writeChildren_text_list t isList.1 written
    have clean : ∀ line ∈ t.written :: below.lines 0 nested 0, IsItemLine line :=
      List.forall_mem_cons.mpr ⟨t.isItemLine_written, fun line => isItemLine_of_mem_lines below⟩
    intro pen plain
    obtain ⟨items, last, whole, finish, joined⟩ :=
      (ih tight later).item here attributes clean ends inside plain
    refine ⟨items, last, whole, finish, ?_⟩
    rw [lines, Nat.zero_add]
    rwa [← lines_add, Nat.add_zero] at joined

end Write

end Outline

/-- **A tree of tight lists is written with one line for each item.**  The lines come in the order
of the document; each has as many spaces as the marks of the items above are wide, then the mark,
then the escaped text with its white space collapsed. -/
theorem lines_writeDocument_list {list : Element} {items : Outline}
    (isList : Outline.IsListOf list items.count) (tight : items.IsTight) {gap : Option Text}
    (blank : ∀ space ∈ gap, Text.isAllBlank space) :
    Text.lines (writeDocument {} ElementRule.defaults
      (bodyDocument (.element list.tag list.attributes items.nodes ::
        (gap.map Node.text).toList))) = items.lines 0 list 0 := by
  have start : (⟨true, false⟩ : Pen).inCell = false := rfl
  obtain ⟨next, written, -⟩ :=
    (Outline.writesLines tight isList.fits).writeNode tight isList "body" start
  have isBlock : isBlockNode (.element list.tag list.attributes items.nodes) := by
    rcases isList.2 with bulleted | ⟨numbered, -⟩
    · rw [bulleted]; rfl
    · rw [numbered]; rfl
  obtain ⟨t, others, whole⟩ := Outline.exists_lines_cons list 0 isList.1
  rw [writeDocument_body isBlock (Outline.isShown_unlines_lines isList.1).isSolid written gap
    blank]
  exact Text.lines_unlines (by rw [whole]; exact List.cons_ne_nil _ _) fun line member =>
    (Outline.isItemLine_of_mem_lines items member).oneLine

/-- Items with the numbers 9 and 10, each with a list below it. -/
def Outline.sample : Outline :=
  .branch [] ⟨"a  *b*".toList, by decide, by decide⟩ ⟨"ul", []⟩
    (.leaf [] ⟨"- c".toList, by decide, by decide⟩ .done)
    (.other (.text ['\n']) rfl
      (.branch [] ⟨"d".toList, by decide, by decide⟩ ⟨"ol", []⟩
        (.leaf [] ⟨"1. e".toList, by decide, by decide⟩ .done) .done))

theorem lines_writeDocument_list_of_numbers :
    (Outline.IsListOf ⟨"ol", [⟨"start", ['9']⟩]⟩ Outline.sample.count ∧ Outline.sample.IsTight ∧
      ∀ space ∈ some ['\n'], Text.isAllBlank space) ∧
      Text.lines (writeDocument {} ElementRule.defaults
        (bodyDocument (.element "ol" [⟨"start", ['9']⟩] Outline.sample.nodes ::
          ((some ['\n']).map Node.text).toList))) =
        ["9. a \\*b\\*".toList, "   - \\- c".toList, "10. d".toList, "    1. 1\\. e".toList] := by
  have isList : Outline.IsListOf ⟨"ol", [⟨"start", ['9']⟩]⟩ Outline.sample.count :=
    ⟨by decide, .inr ⟨rfl, by decide⟩⟩
  have tight : Outline.sample.IsTight :=
    ⟨⟨by decide, .inl rfl⟩, trivial, ⟨by decide, .inr ⟨rfl, by decide⟩⟩, trivial, trivial⟩
  have blank : ∀ space ∈ some ['\n'], Text.isAllBlank space := fun _ same =>
    Option.some.inj same ▸ rfl
  exact ⟨⟨isList, tight, blank⟩, (lines_writeDocument_list isList tight blank).trans (by decide)⟩

example : serialize {} ElementRule.defaults
    "<ol start=9><li>a<ul><li>b</ul><li>c</ol>\n".toList = "9. a\n   - b\n10. c".toList := by
  decide +kernel

end Serialize

end MarkdownDialects
