import MarkdownDialects.Serialize.Writer

/-!
# Rows and cells

The rows of a table stand in it or in its parts.  They are written one after the other as if they
stood side by side (`Serialize.writeRows_eq`), and what a cell is written as depends on nothing
before it (`Serialize.writeCells_fst`).
-/

namespace MarkdownDialects

namespace Serialize

open Html (Node Attribute)

section Rows

variable {tag : String} {attributes : List Attribute} {content rest : List Node}

theorem tableRows_row :
    tableRows (.element "tr" attributes content :: rest) = content :: tableRows rest := by
  simp [tableRows, Node.isNamed, Node.name?, Node.children]

theorem tableRows_group (group : rowGroups.contains tag) :
    tableRows (.element tag attributes content :: rest) =
      (content.filter (Node.isNamed "tr")).map Node.children ++ tableRows rest := by
  have other : tag ≠ "tr" := by
    rintro rfl
    exact absurd group (by decide)
  have part : Option.any rowGroups.contains (some tag) = true := group
  simp [tableRows, Node.isNamed, Node.name?, Node.children, other, part]

theorem tableRows_cons_of_not {n : Node} (notRow : n.isNamed "tr" = false)
    (notGroup : n.name?.any rowGroups.contains = false) :
    tableRows (n :: rest) = tableRows rest := by
  simp [tableRows, notRow, notGroup]

end Rows

section Walk

variable (options : SerializeOptions) (rules : List ElementRule)

/-- Write rows, given as the lists of their children, one after the other. -/
def writeEach : List (List Node) → Pen → List (List Text) × Pen
  | [], pen => ([], pen)
  | row :: rest, pen =>
    let (cells, pen) := writeCells options rules row pen
    let (rows, pen) := writeEach rest pen
    (cells :: rows, pen)

theorem writeEach_append (front back : List (List Node)) (pen : Pen) :
    writeEach options rules (front ++ back) pen =
      ((writeEach options rules front pen).1 ++
          (writeEach options rules back (writeEach options rules front pen).2).1,
        (writeEach options rules back (writeEach options rules front pen).2).2) := by
  induction front generalizing pen with
  | nil => rfl
  | cons row front ih => simp only [List.cons_append, writeEach, ih]

theorem writeGroup_eq (nodes : List Node) (pen : Pen) :
    writeGroup options rules nodes pen =
      writeEach options rules ((nodes.filter (Node.isNamed "tr")).map Node.children) pen := by
  induction nodes generalizing pen with
  | nil => rfl
  | cons n rest ih =>
    cases n with
    | text t => exact ih pen
    | comment t => exact ih pen
    | element tag attributes content =>
      rw [writeGroup]
      by_cases row : tag = "tr"
      · simp only [row, beq_self_eq_true, if_true, ih]
        rfl
      · simp [row, ih, Node.isNamed, Node.name?]

/-- The rows in the parts of a table are written as if they stood in the table. -/
theorem writeRows_eq (nodes : List Node) (pen : Pen) :
    writeRows options rules nodes pen = writeEach options rules (tableRows nodes) pen := by
  induction nodes generalizing pen with
  | nil => rfl
  | cons n rest ih =>
    cases n with
    | text t => exact ih pen
    | comment t => exact ih pen
    | element tag attributes content =>
      rw [writeRows]
      by_cases row : tag = "tr"
      · subst row
        simp only [beq_self_eq_true, if_true, ih, tableRows_row, writeEach]
      · rw [if_neg (by simpa using row)]
        by_cases group : rowGroups.contains tag
        · simp only [group, if_true, writeGroup_eq, ih, tableRows_group group, writeEach_append]
        · rw [if_neg group, ih, tableRows_cons_of_not]
          · simpa [Node.isNamed, Node.name?] using row
          · simpa [Node.name?] using group

/-- What a cell is written as. -/
def writtenCell : Node → Text
  | .element tag _ content =>
    cellText (writeChildren options rules tag true content .cellStart []).1
  | _ => []

theorem writeCells_fst (nodes : List Node) (pen : Pen) :
    (writeCells options rules nodes pen).1 =
      (nodes.filter isCell).map (writtenCell options rules) := by
  induction nodes generalizing pen with
  | nil => rfl
  | cons n rest ih =>
    cases n with
    | text t => exact ih pen
    | comment t => exact ih pen
    | element tag attributes content =>
      rw [writeCells]
      by_cases cell : isCellName tag
      · have shown : isCell (.element tag attributes content) := cell
        simp only [cell, if_true, ih, List.filter_cons_of_pos shown, List.map_cons, writtenCell]
      · have hidden : ¬ isCell (.element tag attributes content) := cell
        rw [if_neg cell, ih, List.filter_cons_of_neg hidden]

theorem writeEach_fst (rows : List (List Node)) (pen : Pen) :
    (writeEach options rules rows pen).1 =
      rows.map fun row => (row.filter isCell).map (writtenCell options rules) := by
  induction rows generalizing pen with
  | nil => rfl
  | cons row rows ih => simp only [writeEach, writeCells_fst, ih, List.map_cons]

end Walk

end Serialize

end MarkdownDialects
