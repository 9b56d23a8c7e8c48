import MarkdownDialects.Proofs.Serialize.Comment
import MarkdownDialects.Proofs.Serialize.Table

/-!
# Escaping in cells

The pen tells whether text stands in a cell, where its bars are escaped.  Writing a node leaves the
pen in the cell it was in, unless a table with a cell is written on the way: then the cell is over
as far as the pen knows (`Serialize.inCell_writeNode`).  So text has its bars escaped if it stands
in a cell and no such table comes before it there (`Serialize.writeText_of_meets`).
-/

namespace MarkdownDialects

namespace Serialize

open Html (Node Attribute)

/-- Whether a rule is there for an element. -/
def hasRule (rules : List ElementRule) (e : Element) : Bool :=
  (rules.find? fun rule => rule.applies e).isSome

mutual

/-- Whether a table with a cell is written somewhere in a node. -/
def closesCell (rules : List ElementRule) : Node → Bool
  | .element tag attributes content =>
    if hasRule rules ⟨tag, attributes⟩ then anyClosesCell rules content
    else if unwalkedTags.contains tag then false
    else if tag == "ul" || tag == "ol" then anyItemClosesCell rules content
    else if tag == "table" then (tableRows content).any (·.any isCell)
    else anyClosesCell rules content
  | _ => false

/-- Whether a table with a cell is written somewhere in some nodes. -/
def anyClosesCell (rules : List ElementRule) : List Node → Bool
  | [] => false
  | n :: rest => closesCell rules n || anyClosesCell rules rest

/-- Whether a table with a cell is written somewhere in the items of a list. -/
def anyItemClosesCell (rules : List ElementRule) : List Node → Bool
  | [] => false
  | .element tag _ content :: rest =>
    tag == "li" && anyClosesCell rules content || anyItemClosesCell rules rest
  | _ :: rest => anyItemClosesCell rules rest

end

namespace Pen

variable (pen : Pen)

@[simp]
theorem inCell_dropping (drops : Bool) : (pen.dropping drops).inCell = pen.inCell := rfl

@[simp]
theorem inCell_cellEnd : pen.cellEnd.inCell = false := rfl

@[simp]
theorem inCell_ite_dropping (isBlock drops : Bool) :
    (if isBlock then pen.dropping drops else pen).inCell = pen.inCell := by
  cases isBlock <;> rfl

end Pen

section Frame

variable {options : SerializeOptions} {rules : List ElementRule}

@[simp]
theorem inCell_writeText (t : Text) (pen : Pen) : (writeText t pen).2.inCell = pen.inCell := by
  unfold writeText
  dsimp only
  split_ifs <;> rfl

@[simp]
theorem inCell_writeComment (parent : String) (t : Text) (pen : Pen) :
    (writeComment parent t pen).2.inCell = pen.inCell := by
  simp only [writeComment]
  split <;> rfl

theorem inCell_leaf? {e : Element} {content : List Node} {pen : Pen} {written : Text × Pen}
    (leaf : leaf? options e content pen = some written) : written.2.inCell = pen.inCell := by
  have one {t : Text} {last : Pen} (same : last.inCell = pen.inCell) :
      ∀ w ∈ some (t, last), w.2.inCell = pen.inCell := fun w member =>
    Option.some.inj member ▸ same
  have choice {c : Prop} [Decidable c] {a b : Option (Text × Pen)}
      (first : ∀ w ∈ a, w.2.inCell = pen.inCell) (others : ∀ w ∈ b, w.2.inCell = pen.inCell) :
      ∀ w ∈ if c then a else b, w.2.inCell = pen.inCell := by
    split
    · exact first
    · exact others
  -- One choice for each leaf, and one more for the two kinds of inputs.
  have all : ∀ w ∈ leaf? options e content pen, w.2.inCell = pen.inCell :=
    choice (one rfl) <| choice (one rfl) <| choice (one rfl) <| choice (one rfl) <|
      choice (one rfl) <| choice (one rfl) <| choice (choice (one rfl) (one rfl)) (by simp)
  exact all written leaf

theorem exists_leaf? {tag : String} (unwalked : unwalkedTags.contains tag)
    (attributes : List Attribute) (content : List Node) (pen : Pen) :
    ∃ written, leaf? options ⟨tag, attributes⟩ content pen = some written := by
  have names : tag ∈ hiddenTags ∨ tag ∈ ["pre", "code", "br", "hr", "img", "input"] :=
    List.mem_append.mp (List.contains_iff_mem.mp unwalked)
  rcases names with hidden | other
  · exact ⟨([], pen), if_pos (List.contains_iff_mem.mpr hidden)⟩
  · simp only [List.mem_cons, List.not_mem_nil, or_false] at other
    rcases other with rfl | rfl | rfl | rfl | rfl | rfl
    case inr.inr.inr.inr.inr =>
      unfold leaf?
      by_cases box : Element.attribute? ⟨"input", attributes⟩ "type" = some "checkbox".toList
      · exact ⟨_, if_pos box⟩
      · exact ⟨_, if_neg box⟩
    all_goals exact ⟨_, rfl⟩

theorem inCell_writeCells (nodes : List Node) (pen : Pen) :
    (writeCells options rules nodes pen).2.inCell = (pen.inCell && !nodes.any isCell) := by
  induction nodes generalizing pen with
  | nil => simp [writeCells]
  | cons n rest ih =>
    rw [List.any_cons]
    cases n with
    | text t => exact ih pen
    | comment t => exact ih pen
    | element tag attributes content =>
      rw [writeCells]
      by_cases cell : isCellName tag
      · simp [cell, ih, isCell, Node.name?]
      · simp [cell, ih, isCell, Node.name?]

theorem inCell_writeRows (nodes : List Node) (pen : Pen) :
    (writeRows options rules nodes pen).2.inCell =
      (pen.inCell && !(tableRows nodes).any (·.any isCell)) := by
  rw [writeRows_eq]
  induction tableRows nodes generalizing pen with
  | nil => simp [writeEach]
  | cons row rows ih =>
    simp only [writeEach]
    rw [ih, inCell_writeCells, List.any_cons, Bool.not_or, Bool.and_assoc]

mutual

/-- **What writing a node does to the cell it stands in.** -/
theorem inCell_writeNode (parent : String) (n : Node) (pen : Pen) :
    (writeNode options rules parent n pen).2.inCell = (pen.inCell && !closesCell rules n) := by
  cases n with
  | text t => simp [writeNode, closesCell]
  | comment t => simp [writeNode, closesCell]
  | element tag attributes content =>
    rw [writeNode, closesCell]
    dsimp only
    rw [Pen.inCell_ite_dropping]
    have entered := pen.inCell_ite_dropping (blockTags.contains tag) true
    generalize (if blockTags.contains tag then pen.dropping true else pen) = start at entered ⊢
    rw [← entered]
    cases found : rules.find? fun rule => rule.applies ⟨tag, attributes⟩ with
    | some rule =>
      simpa [hasRule, found] using inCell_writeChildren tag true content start []
    | none =>
      simp only [hasRule, found, Option.isSome_none, Bool.false_eq_true, if_false]
      by_cases unwalked : unwalkedTags.contains tag
      · obtain ⟨written, leaf⟩ := @exists_leaf? options tag unwalked attributes content start
        rw [leaf, if_pos unwalked, Bool.not_false, Bool.and_true]
        exact inCell_leaf? leaf
      · rw [leaf?_eq_none (by simpa using unwalked), if_neg unwalked]
        dsimp only
        split_ifs with isList isTable isItem
        · exact inCell_writeItems _ 0 content start
        · exact inCell_writeRows content start
        · exact inCell_writeChildren tag true content start []
        · exact inCell_writeChildren tag true content start []

theorem inCell_writeChildren (parent : String) (afterBlock : Bool) (nodes : List Node) (pen : Pen)
    (out : Text) :
    (writeChildren options rules parent afterBlock nodes pen out).2.inCell =
      (pen.inCell && !anyClosesCell rules nodes) := by
  cases nodes with
  | nil => simp [writeChildren, anyClosesCell]
  | cons n rest =>
    rw [writeChildren, anyClosesCell]
    split
    next skipped =>
      have blank : closesCell rules n = false := by
        cases n <;> first | rfl | exact absurd skipped (by simp [isBlankText])
      simpa [blank] using inCell_writeChildren parent false rest pen out
    next =>
      dsimp only
      rw [inCell_writeChildren, inCell_writeNode, Bool.not_or, Bool.and_assoc]

theorem inCell_writeItems (mark : Nat → Text) (index : Nat) (nodes : List Node) (pen : Pen) :
    (writeItems options rules mark index nodes pen).2.inCell =
      (pen.inCell && !anyItemClosesCell rules nodes) := by
  cases nodes with
  | nil => simp [writeItems, anyItemClosesCell]
  | cons n rest =>
    cases n with
    | text t => exact inCell_writeItems mark index rest pen
    | comment t => exact inCell_writeItems mark index rest pen
    | element tag attributes content =>
      rw [writeItems, anyItemClosesCell]
      by_cases item : tag = "li"
      · simp only [item, beq_self_eq_true, if_true, Bool.true_and]
        rw [inCell_writeItems, inCell_writeChildren, Pen.inCell_dropping, Bool.not_or,
          Bool.and_assoc]
      · rw [beq_eq_false_iff_ne.mpr item, if_neg Bool.false_ne_true, Bool.false_and, Bool.false_or]
        exact inCell_writeItems mark index rest pen

end

end Frame

/-! ## Texts -/

/-- Where text stands with respect to tables. -/
inductive Standing where
  | outside
  | inCell
  /-- In a cell, and behind a table with a cell that is in the same cell. -/
  | behindTable
deriving DecidableEq

/-- Where text stands behind a node, if a table with a cell is written in the node or not. -/
def Standing.behind (closes : Bool) : Standing → Standing
  | .inCell => if closes then .behindTable else .inCell
  | place => place

/-- Nodes that are written for an element, in an element of the given name: with which pen they
begin, and where they stand. -/
inductive Enters (options : SerializeOptions) (rules : List ElementRule) (e : Element)
    (content : List Node) (pen : Pen) (place : Standing) :
    String → List Node → Pen → Standing → Prop
  | rule : hasRule rules e → Enters options rules e content pen place e.tag content pen place
  | children :
      hasRule rules e = false → unwalkedTags.contains e.tag = false →
      (e.tag == "ul" || e.tag == "ol") = false → e.tag ≠ "table" →
      Enters options rules e content pen place e.tag content pen place
  | item {attributes : List Attribute} {before inner after : List Node} :
      hasRule rules e = false → (e.tag == "ul" || e.tag == "ol") →
      content = before ++ .element "li" attributes inner :: after →
      Enters options rules e content pen place "li" inner
        ((writeItems options rules (itemMark options e) 0 before pen).2.dropping true)
        (place.behind (anyItemClosesCell rules before))
  | cell {name : String} {attributes : List Attribute} {row inner : List Node} :
      hasRule rules e = false → e.tag = "table" → row ∈ tableRows content →
      .element name attributes inner ∈ row → isCellName name →
      Enters options rules e content pen place name inner .cellStart .inCell

/-- Whether a node is white space that is not written, in front of the given nodes. -/
def isSkipped (afterBlock : Bool) (n : Node) (rest : List Node) : Bool :=
  isBlankText n && (afterBlock || rest.head?.all isBlockNode)

/-- A text that is written in the course of writing some nodes: with which pen, and where it
stands. -/
inductive Meets (options : SerializeOptions) (rules : List ElementRule) (t : Text) :
    String → Bool → List Node → Pen → Standing → Pen → Standing → Prop
  | here {parent : String} {afterBlock : Bool} {rest : List Node} {pen : Pen} {place : Standing} :
      isSkipped afterBlock (.text t) rest = false →
      Meets options rules t parent afterBlock (.text t :: rest) pen place pen place
  | skipped {parent : String} {afterBlock : Bool} {n : Node} {rest : List Node} {pen last : Pen}
      {place final : Standing} :
      isSkipped afterBlock n rest →
      Meets options rules t parent false rest pen place last final →
      Meets options rules t parent afterBlock (n :: rest) pen place last final
  | later {parent : String} {afterBlock : Bool} {n : Node} {rest : List Node} {pen last : Pen}
      {place final : Standing} :
      isSkipped afterBlock n rest = false →
      Meets options rules t parent (isBlockNode n) rest (writeNode options rules parent n pen).2
        (place.behind (closesCell rules n)) last final →
      Meets options rules t parent afterBlock (n :: rest) pen place last final
  | inside {parent name : String} {afterBlock : Bool} {tag : String} {attributes : List Attribute}
      {content inner rest : List Node} {pen start last : Pen} {place entered final : Standing} :
      Enters options rules ⟨tag, attributes⟩ content
        (if blockTags.contains tag then pen.dropping true else pen) place name inner start entered →
      Meets options rules t name true inner start entered last final →
      Meets options rules t parent afterBlock (.element tag attributes content :: rest) pen place
        last final

section Meets

variable {options : SerializeOptions} {rules : List ElementRule} {pen start last : Pen}
  {place entered final : Standing}

/-- The pen knows where text stands. -/
def Agrees (pen : Pen) (place : Standing) : Prop := pen.inCell = decide (place = .inCell)

theorem Agrees.behind (agrees : Agrees pen place) (closes : Bool) :
    (pen.inCell && !closes) = decide (place.behind closes = .inCell) := by
  rw [agrees]
  cases place <;> cases closes <;> rfl

theorem Agrees.enters {e : Element} {content inner : List Node} {name : String}
    (agrees : Agrees pen place)
    (enters : Enters options rules e content pen place name inner start entered) :
    Agrees start entered := by
  cases enters with
  | rule => exact agrees
  | children => exact agrees
  | item =>
    rw [Agrees, Pen.inCell_dropping, inCell_writeItems]
    exact agrees.behind _
  | cell => rfl

theorem Agrees.meets {t : Text} {parent : String} {afterBlock : Bool} {nodes : List Node}
    (agrees : Agrees pen place)
    (meets : Meets options rules t parent afterBlock nodes pen place last final) :
    Agrees last final := by
  induction meets with
  | here => exact agrees
  | skipped _ _ ih => exact ih agrees
  | later _ _ ih =>
    refine ih ?_
    rw [Agrees, inCell_writeNode]
    exact agrees.behind _
  | inside enters _ ih =>
    refine ih (Agrees.enters ?_ enters)
    rw [Agrees, Pen.inCell_ite_dropping]
    exact agrees

/-- Text is written as outside of tables, but for the bars. -/
theorem writeText_escaping (t : Text) (pen : Pen) :
    (writeText t pen).1 = pen.escaping (writeText t { pen with inCell := false }).1 := by
  unfold writeText
  dsimp only
  split_ifs with drops empty empty
  all_goals cases inCell : pen.inCell <;> simp [Pen.escaping, inCell, escapeBars, Text.replaceChar]

/-- **Bars are escaped in cells up to the first table in them.**  Writing a node leaves the pen in
its cell, unless a table with a cell is written in the node.  So of all texts of a document those
have their bars escaped that stand in a cell and not behind a table in the same cell. -/
theorem writeText_of_meets (options : SerializeOptions) (rules : List ElementRule) :
    (∀ parent n pen,
      (writeNode options rules parent n pen).2.inCell = (pen.inCell && !closesCell rules n)) ∧
    ∀ {nodes : List Node} {t : Text} {pen : Pen} {place : Standing},
      Meets options rules t "" true nodes ⟨true, false⟩ .outside pen place →
      (writeText t pen).1 =
        if place = .inCell then escapeBars (writeText t { pen with inCell := false }).1
        else (writeText t { pen with inCell := false }).1 := by
  refine ⟨fun parent n pen => inCell_writeNode parent n pen, fun {nodes t pen place} meets => ?_⟩
  have start : Agrees ⟨true, false⟩ .outside := rfl
  have agrees : pen.inCell = decide (place = .inCell) := start.meets meets
  rw [writeText_escaping, Pen.escaping, agrees]
  simp only [decide_eq_true_eq]

/-- A table with one cell. -/
def soleCell (content : List Node) : Node :=
  .element "table" [] [.element "tr" [] [.element "td" [] content]]

/-- The text in front of the inner table has its bar escaped, the text behind it has not. -/
theorem writeText_of_meets_around_table :
    let cell : List Node := [.text "a|".toList, soleCell [.text ['x']], .text "b|".toList]
    ∃ front back,
      Meets {} ElementRule.defaults "a|".toList "" true [soleCell cell] ⟨true, false⟩ .outside
        front .inCell ∧
      (writeText "a|".toList front).1 = "a\\|".toList ∧
      Meets {} ElementRule.defaults "b|".toList "" true [soleCell cell] ⟨true, false⟩ .outside
        back .behindTable ∧
      (writeText "b|".toList back).1 = "b|".toList := by
  intro cell
  have enters := fun start => @Enters.cell {} ElementRule.defaults ⟨"table", []⟩
    [.element "tr" [] [.element "td" [] cell]] start .outside "td" [] _ cell rfl rfl
    List.mem_cons_self List.mem_cons_self rfl
  have front : Meets {} ElementRule.defaults "a|".toList "" true [soleCell cell] ⟨true, false⟩
      .outside _ .inCell := .inside (enters _) (.here rfl)
  have back : Meets {} ElementRule.defaults "b|".toList "" true [soleCell cell] ⟨true, false⟩
      .outside _ .behindTable := .inside (enters _) (.later rfl (.later rfl (.here rfl)))
  obtain ⟨-, written⟩ := writeText_of_meets {} ElementRule.defaults
  exact ⟨_, _, front, (written front).trans (by decide), back, (written back).trans (by decide)⟩

/-- **An inner table ends the cell around it.**  The bar behind it is written as it is and divides
the cell. -/
theorem inCell_ne_of_inner_table :
    (writeNode {} ElementRule.defaults "td" (soleCell [.text ['x']]) .cellStart).2.inCell ≠
        Pen.cellStart.inCell ∧
      writeDocument {} ElementRule.defaults
          [soleCell [soleCell [.text ['x']], .text "a|b".toList]] =
        "| | x | | --- |  a|b |\n| --- |".toList := by
  decide +kernel

end Meets

end Serialize

end MarkdownDialects
