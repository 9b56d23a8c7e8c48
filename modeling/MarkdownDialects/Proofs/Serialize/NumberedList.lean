import MarkdownDialects.Proofs.Serialize.ListItem

/-!
# Numbers of list items

The items of a list are written in order, each behind the mark for its place
(`Serialize.getElem?_writeItems`).  In a numbered list the place is added to the number at which the
list starts, in 64 bits.  So an item has the right number exactly if that number has 64 bits
(`Serialize.writeNode_numbered_list`); past the largest one the numbers begin again at zero
(`Serialize.numbers_begin_again`).
-/

namespace MarkdownDialects

namespace Numeral

theorem digits_inj {m n : Nat} : digits m = digits n ↔ m = n := by
  refine ⟨fun same => ?_, congrArg digits⟩
  have read (k : Nat) : Nat.ofDigitChars 10 (digits k) 0 = k :=
    Nat.ofDigitChars_toDigits (by decide) (by decide)
  rw [← read m, ← read n, same]

theorem isDigit_of_mem_digits {n : Nat} {c : Char} (member : c ∈ digits n) : c.isDigit = true :=
  Nat.isDigit_of_mem_toDigits (by decide) (by decide) member

/-- A number ends where something else than a digit comes. -/
theorem takeWhile_digits_append {c : Char} (noDigit : c.isDigit = false) (n : Nat) (rest : Text) :
    (digits n ++ c :: rest).takeWhile Char.isDigit = digits n := by
  rw [List.takeWhile_append_of_pos fun d member => isDigit_of_mem_digits member,
    List.takeWhile_cons_of_neg (by simp [noDigit]), List.append_nil]

end Numeral

namespace Serialize

open Html (Attribute Node)

/-- The mark of an item with a number. -/
def numberMark (n : Nat) : Text := Numeral.digits n ++ ['.', ' ']

theorem itemMark_ol (options : SerializeOptions) (attributes : List Attribute) (index : Nat) :
    itemMark options ⟨"ol", attributes⟩ index =
      numberMark ((listStart ⟨"ol", attributes⟩ + index) % Numeral.bound) := rfl

/-- An item begins with its mark. -/
theorem isPrefix_listItem (mark content : Text) : mark <+: listItem mark content := by
  unfold listItem
  dsimp only
  split
  · exact List.prefix_refl mark
  · rename_i first rest _
    obtain ⟨back, whole⟩ := Text.exists_unlines_cons (mark ++ first)
      (rest.map fun line => if line.isEmpty then [] else Text.rep mark.length ' ' ++ line)
    exact ⟨first ++ back, by rw [whole, List.append_assoc]⟩

/-- What is written for an item shows its number and no other. -/
theorem numberMark_isPrefix_listItem_iff (m n : Nat) (content : Text) :
    numberMark m <+: listItem (numberMark n) content ↔ m = n := by
  refine ⟨fun shown => ?_, fun same => same ▸ isPrefix_listItem _ content⟩
  obtain ⟨body, whole⟩ := isPrefix_listItem (numberMark n) content
  obtain ⟨back, other⟩ := whole ▸ shown
  have noDigit : '.'.isDigit = false := by decide
  rw [← Numeral.digits_inj, ← Numeral.takeWhile_digits_append noDigit m (' ' :: back),
    ← Numeral.takeWhile_digits_append noDigit n (' ' :: body)]
  simpa [numberMark] using congrArg (List.takeWhile Char.isDigit) other

section Items

variable (options : SerializeOptions) (rules : List ElementRule)

/-- The items among the children of a list. -/
def listItems (content : List Node) : List Node := content.filter (Node.isNamed "li")

/-- What is written for the content of an item. -/
def itemContent (item : Node) (pen : Pen) : Text :=
  (writeChildren options rules "li" true item.children pen []).1

/-- **Every item of a list is written, in order, behind the mark for its place.**  Other nodes
between the items do not count. -/
theorem getElem?_writeItems (mark : Nat → Text) (index : Nat) (content : List Node) (pen : Pen) :
    ∃ pens : Nat → Pen, ∀ k, (writeItems options rules mark index content pen).1[k]? =
      (listItems content)[k]?.map fun item =>
        listItem (mark (index + k)) (itemContent options rules item (pens k)) := by
  induction content generalizing index pen with
  | nil => exact ⟨fun _ => pen, fun k => rfl⟩
  | cons n rest ih =>
    cases n with
    | text t | comment t => exact ih index pen
    | element tag attributes children =>
      by_cases item : tag = "li"
      · subst item
        let first := pen.dropping true
        obtain ⟨pens, later⟩ :=
          ih (index + 1) (writeChildren options rules "li" true children first []).2
        refine ⟨fun k => k.casesOn first pens, fun k => ?_⟩
        rw [writeItems, if_pos (beq_self_eq_true "li")]
        cases k with
        | zero => rfl
        | succ k =>
          refine (later k).trans ?_
          rw [Nat.add_assoc, Nat.add_comm 1 k]
          rfl
      · have other : (tag == "li") = false := beq_false_of_ne item
        have skipped : listItems (.element tag attributes children :: rest) = listItems rest :=
          List.filter_cons_of_neg (by simpa [Node.isNamed, Node.name?] using item)
        rw [writeItems, other, if_neg Bool.false_ne_true, skipped]
        exact ih index pen

end Items

/-- A numbered list without a rule of its own is written as the block of its items. -/
theorem writeNode_ol {options : SerializeOptions} {rules : List ElementRule}
    {attributes : List Attribute}
    (noRule : ∀ rule ∈ rules, rule.applies ⟨"ol", attributes⟩ = false)
    (parent : String) (content : List Node) (pen : Pen) :
    ∃ next, writeNode options rules parent (.element "ol" attributes content) pen =
      (listBlock parent content (writeItems options rules (itemMark options ⟨"ol", attributes⟩) 0
        content (pen.dropping true)).1, next) := by
  have none : (rules.find? fun rule => rule.applies ⟨"ol", attributes⟩) = none :=
    List.find?_eq_none.mpr fun rule member => by simp [noRule rule member]
  refine ⟨(writeItems options rules (itemMark options ⟨"ol", attributes⟩) 0 content
    (pen.dropping true)).2.dropping true, ?_⟩
  rw [writeNode.eq_def]
  simp only [none]
  rfl

/-- **The numbers of a list.**  In a numbered list whose start is a number of 64 bits, every item is
written behind the sum of the start and its place, cut down to 64 bits.  So an item shows the sum
exactly if the sum has 64 bits. -/
theorem writeNode_numbered_list {options : SerializeOptions} {rules : List ElementRule}
    {attributes : List Attribute} {start : Nat}
    (noRule : ∀ rule ∈ rules, rule.applies ⟨"ol", attributes⟩ = false)
    (starts : ((Element.mk "ol" attributes).attribute? "start").bind
      (fun t => Numeral.parse? (Text.trim t)) = some start)
    (parent : String) (content : List Node) (pen : Pen) :
    ∃ (items : List Text) (pens : Nat → Pen) (next : Pen),
      writeNode options rules parent (.element "ol" attributes content) pen =
        (listBlock parent content items, next) ∧
      (∀ k, items[k]? = (listItems content)[k]?.map fun item =>
        listItem (numberMark ((start + k) % Numeral.bound))
          (itemContent options rules item (pens k))) ∧
      ∀ k item, items[k]? = some item →
        (numberMark (start + k) <+: item ↔ start + k < Numeral.bound) := by
  obtain ⟨next, written⟩ := writeNode_ol noRule parent content pen
  have first : listStart ⟨"ol", attributes⟩ = start := by rw [listStart, starts]; rfl
  obtain ⟨pens, each⟩ := getElem?_writeItems options rules (itemMark options ⟨"ol", attributes⟩) 0
    content (pen.dropping true)
  simp only [itemMark_ol, first, Nat.zero_add] at each
  refine ⟨_, pens, next, written, each, fun k item there => ?_⟩
  rw [each k] at there
  obtain ⟨li, -, rfl⟩ := Option.map_eq_some_iff.mp there
  rw [numberMark_isPrefix_listItem_iff, eq_comm]
  exact Nat.mod_eq_iff_lt (by decide)

/-- Three items from the largest number but one: the last of them has no number of 64 bits. -/
theorem writeNode_numbered_list_at_bound :
    let attributes : List Attribute := [⟨"start", " 18446744073709551614".toList⟩]
    let item (c : Char) : Node := .element "li" [] [.text [c]]
    let content := [item 'a', .text ['\n'], item 'b', item 'c']
    ((∀ rule ∈ ElementRule.defaults, rule.applies ⟨"ol", attributes⟩ = false) ∧
      ((Element.mk "ol" attributes).attribute? "start").bind
        (fun t => Numeral.parse? (Text.trim t)) = some 18446744073709551614) ∧
    ∃ (items : List Text) (pens : Nat → Pen) (next : Pen),
      writeNode {} ElementRule.defaults "body" (.element "ol" attributes content) ⟨true, false⟩ =
        (listBlock "body" content items, next) ∧
      (∀ k, items[k]? = (listItems content)[k]?.map fun item =>
        listItem (numberMark ((18446744073709551614 + k) % Numeral.bound))
          (itemContent {} ElementRule.defaults item (pens k))) ∧
      ∀ k item, items[k]? = some item →
        (numberMark (18446744073709551614 + k) <+: item ↔
          18446744073709551614 + k < Numeral.bound) := by
  intro attributes item content
  have noRule : ∀ rule ∈ ElementRule.defaults, rule.applies ⟨"ol", attributes⟩ = false := by
    decide
  have starts : ((Element.mk "ol" attributes).attribute? "start").bind
      (fun t => Numeral.parse? (Text.trim t)) = some 18446744073709551614 := by
    decide
  exact ⟨⟨noRule, starts⟩, writeNode_numbered_list noRule starts "body" content ⟨true, false⟩⟩

/-- The second item of a list that starts at the largest number of 64 bits has the number zero, and
not the sum of the start and its place. -/
theorem numbers_begin_again :
    Numeral.parse? "18446744073709551615".toList = some 18446744073709551615 ∧
      serialize {} ElementRule.defaults
          "<ol start=18446744073709551615><li>a<li>b</ol>".toList =
        numberMark 18446744073709551615 ++ 'a' :: '\n' :: (numberMark 0 ++ ['b']) ∧
      numberMark 0 ≠ numberMark (18446744073709551615 + 1) := by
  refine ⟨by decide, by decide +kernel, fun same => ?_⟩
  exact absurd (Numeral.digits_inj.mp (List.append_cancel_right same)) (by decide)

end Serialize

end MarkdownDialects
