import Mathlib.Algebra.Ring.Nat
import MarkdownDialects.Proofs.Serialize.CellText
import MarkdownDialects.Proofs.Serialize.Page

/-!
# The shape of tables

A table is written with one line for each of its rows and one line of delimiters, and each line has
a bar around each of its cells (`Serialize.openBars_lines_table`).  Further bars divide a row if
they come from the attributes of an image or a link, or from behind a backslash in code.
-/

namespace MarkdownDialects

namespace Serialize

open Html (Node Attribute)

/-- The largest number of cells in a row of a table. -/
def columnCount (content : List Node) : Nat :=
  ((tableRows content).map (·.countP isCell)).foldl max 0

/-- The open bars in what is written for the cells of a row. -/
def rowStrayBars (row : List Node) : Nat :=
  ((row.filter isCell).map fun cell => strayBarsAll cell.children).sum

/-- Whether the cells of a table hold nothing but phrasing. -/
def HasPhrasingCells (content : List Node) : Prop :=
  ∀ row ∈ tableRows content, ∀ cell ∈ row, isCell cell → arePhrasing cell.children

instance (content : List Node) : Decidable (HasPhrasingCells content) :=
  inferInstanceAs (Decidable (∀ row ∈ tableRows content, ∀ cell ∈ row, _ → _))

/-- A row for each row of a table, and one for the delimiters behind the first. -/
def withDelimiters {α : Type} (delimiters : α) (rows : List α) : List α :=
  rows.take 1 ++ delimiters :: rows.drop 1

theorem map_withDelimiters {α β : Type} (f : α → β) (delimiters : α) (rows : List α) :
    (withDelimiters delimiters rows).map f = withDelimiters (f delimiters) (rows.map f) := by
  simp [withDelimiters, List.map_take]

theorem mem_withDelimiters {α : Type} {line delimiters : α} {rows : List α} :
    line ∈ withDelimiters delimiters rows ↔ line = delimiters ∨ line ∈ rows := by
  conv_rhs => rw [← List.take_append_drop 1 rows]
  simp only [withDelimiters, List.mem_append, List.mem_cons]
  tauto

/-! ## Lines -/

section Line

/-- A text on one line that can be followed by any other. -/
structure IsClosedLine (t : Text) : Prop where
  barred : Barred t (openBars t)
  oneLine : '\n' ∉ t

theorem isClosedLine_of_barred {t : Text} {n : Nat} (barred : Barred t n) (oneLine : '\n' ∉ t) :
    IsClosedLine t := ⟨barred.openBars_eq.symm ▸ barred, oneLine⟩

variable {cells : List Text} (closed : ∀ cell ∈ cells, IsClosedLine cell)
include closed

theorem barred_intercalate {cell : Text} (first : IsClosedLine cell) :
    Barred (" | ".toList.intercalate (cell :: cells))
      (cells.length + ((cell :: cells).map openBars).sum) := by
  induction cells generalizing cell with
  | nil =>
    rw [List.intercalate_singleton]
    simpa using first.barred
  | cons next cells ih =>
    have later := ih (fun cell member => closed cell (.tail next member))
      (closed next List.mem_cons_self)
    have sep : Barred " | ".toList 1 :=
      .plain (by decide) (by decide) (.bar (.plain (by decide) (by decide) .nil))
    have all := (first.barred.append sep).append later
    rw [List.intercalate_cons_cons]
    convert all using 1
    simp only [List.length_cons, List.map_cons, List.sum_cons]
    omega

/-- A line of a table has a bar before each cell and one at its end. -/
theorem barred_tableLine (nonempty : cells ≠ []) :
    Barred (tableLine cells) (cells.length + 1 + (cells.map openBars).sum) := by
  obtain ⟨cell, cells, rfl⟩ := List.exists_cons_of_ne_nil nonempty
  have inner := barred_intercalate (fun other member => closed other (.tail cell member))
    (closed cell List.mem_cons_self)
  have front : Barred "| ".toList 1 := .bar (.plain (by decide) (by decide) .nil)
  have back : Barred " |".toList 1 := .plain (by decide) (by decide) (.bar .nil)
  have all := (front.append inner).append back
  rw [tableLine]
  convert all using 1
  simp only [List.length_cons]
  omega

theorem oneLine_tableLine : '\n' ∉ tableLine cells := by
  intro member
  rw [tableLine, List.mem_append, List.mem_append] at member
  rcases member with (front | inner) | back
  · exact absurd front (by decide)
  · rcases Text.mem_intercalate inner with sep | ⟨cell, inside, feed⟩
    · exact absurd sep (by decide)
    · exact (closed cell inside).oneLine feed
  · exact absurd back (by decide)

end Line

theorem isSolid_tableLine (cells : List Text) : IsSolid (tableLine cells) := by
  have shape : tableLine cells =
      '|' :: ([' '] ++ " | ".toList.intercalate cells ++ [' ']) ++ ['|'] := by simp [tableLine]
  rw [shape]
  exact isSolid_of_ends rfl rfl _

/-- Lines that begin and end with something shown. -/
theorem isSolid_unlines {ls : List Text} (nonempty : ls ≠ [])
    (solid : ∀ line ∈ ls, IsSolid line) : IsSolid (Text.unlines ls) := by
  obtain ⟨line, ls, rfl⟩ := List.exists_cons_of_ne_nil nonempty
  have trimmed : Text.trimBy isOuter (Text.unlines (line :: ls)) = Text.unlines (line :: ls) :=
    Text.trimBy_intercalate fun line member =>
      ⟨(solid line member).nonempty, Text.trimBy_eq_self_iff.mpr
        ⟨Text.trimStartBy_eq_self_iff.mpr (solid line member).head,
          Text.trimEndBy_eq_self_iff.mpr (solid line member).last⟩⟩
  obtain ⟨front, back⟩ := Text.trimBy_eq_self_iff.mp trimmed
  refine ⟨?_, Text.trimStartBy_eq_self_iff.mp front, Text.trimEndBy_eq_self_iff.mp back⟩
  obtain ⟨rest, whole⟩ := Text.exists_unlines_cons line ls
  rw [whole]
  exact List.append_ne_nil_of_left_ne_nil (solid line List.mem_cons_self).nonempty rest

/-! ## Rows -/

/-- The line of a row, filled up with empty cells. -/
def filledLine (columns : Nat) (cells : List Text) : Text :=
  tableLine (cells ++ List.replicate (columns - cells.length) [])

/-- The line of delimiters. -/
def delimiterLine (content : List Node) : Text :=
  tableLine <| (List.range (columnCount content)).map fun i =>
    columnDelimiter (((tableRows content).headD []).filter isCell)[i]?

/-- The cells of a row as they are written. -/
def writtenCells (options : SerializeOptions) (row : List Node) : List Text :=
  (row.filter isCell).map (writtenCell options ElementRule.defaults)

/-- The lines of a table. -/
def tableLines (options : SerializeOptions) (content : List Node) : List Text :=
  withDelimiters (delimiterLine content)
    ((tableRows content).map fun row => filledLine (columnCount content) (writtenCells options row))

theorem oneLine_cellText (content : Text) : '\n' ∉ cellText content := by
  rw [cellText, replaceFeed_eq_map, List.mem_map]
  rintro ⟨c, -, feed⟩
  split at feed
  · exact absurd feed (by decide)
  · contradiction

section Rows

variable {options : SerializeOptions} (clean : CleanDelimiters options)
include clean

theorem barred_writtenCell {cell : Node} (isCell : isCell cell)
    (phrasing : arePhrasing cell.children) :
    Barred (writtenCell options ElementRule.defaults cell) (strayBarsAll cell.children) := by
  cases cell with
  | text t => exact absurd isCell Bool.false_ne_true
  | comment t => exact absurd isCell Bool.false_ne_true
  | element tag attributes content =>
    have cell : Pen.cellStart.inCell := rfl
    have written := barred_writeChildren clean phrasing tag true cell .nil
    rw [Nat.zero_add] at written
    exact written.cellText

theorem openBars_filledLine {row : List Node} (phrasing : ∀ cell ∈ row, isCell cell →
    arePhrasing cell.children) {columns : Nat} (wide : row.countP isCell ≤ columns)
    (shown : columns ≠ 0) :
    '\n' ∉ filledLine columns (writtenCells options row) ∧
      openBars (filledLine columns (writtenCells options row)) =
        columns + 1 + rowStrayBars row := by
  have barred : ∀ cell ∈ row.filter isCell,
      Barred (writtenCell options ElementRule.defaults cell) (strayBarsAll cell.children) := by
    intro cell member
    obtain ⟨inRow, shown⟩ := List.mem_filter.mp member
    exact barred_writtenCell clean shown (phrasing cell inRow shown)
  have size : (writtenCells options row).length = row.countP isCell := by
    rw [writtenCells, List.length_map, List.countP_eq_length_filter]
  have stray : (writtenCells options row).map openBars =
      (row.filter isCell).map fun cell => strayBarsAll cell.children := by
    rw [writtenCells, List.map_map]
    exact List.map_congr_left fun cell member => (barred cell member).openBars_eq
  have written : ∀ cell ∈ writtenCells options row, IsClosedLine cell := by
    intro cell member
    obtain ⟨n, inRow, rfl⟩ := List.mem_map.mp member
    refine isClosedLine_of_barred (barred n inRow) ?_
    cases n with
    | element => exact oneLine_cellText _
    | text t => exact List.not_mem_nil
    | comment t => exact List.not_mem_nil
  rw [filledLine]
  generalize writtenCells options row = cells at size stray written ⊢
  have closed : ∀ cell ∈ cells ++ List.replicate (columns - cells.length) [],
      IsClosedLine cell := by
    intro cell member
    rcases List.mem_append.mp member with cell | filler
    · exact written _ cell
    · rw [List.eq_of_mem_replicate filler]
      exact ⟨.nil, List.not_mem_nil⟩
  have width : (cells ++ List.replicate (columns - cells.length) ([] : Text)).length = columns := by
    rw [List.length_append, List.length_replicate]
    omega
  have filled : cells ++ List.replicate (columns - cells.length) [] ≠ [] :=
    List.ne_nil_of_length_pos (by omega)
  have total : ((cells ++ List.replicate (columns - cells.length) []).map openBars).sum =
      rowStrayBars row := by
    simp [stray, rowStrayBars, openBars]
  exact ⟨oneLine_tableLine closed, by
    rw [(barred_tableLine closed filled).openBars_eq, width, total]⟩

end Rows

theorem openBars_delimiterLine {content : List Node} (shown : columnCount content ≠ 0) :
    '\n' ∉ delimiterLine content ∧ openBars (delimiterLine content) = columnCount content + 1 := by
  have clean (cell : Option Node) :
      '\n' ∉ columnDelimiter cell ∧ ∀ c ∈ columnDelimiter cell, c ≠ '\\' ∧ c ≠ '|' := by
    unfold columnDelimiter
    split
    · split_ifs <;> simp
    · simp
  have barred (cell : Option Node) : Barred (columnDelimiter cell) 0 := .of_clean (clean cell).2
  rw [delimiterLine]
  generalize ((tableRows content).headD []).filter isCell = heads
  generalize columnCount content = columns at shown ⊢
  have closed : ∀ cell ∈ (List.range columns).map fun i => columnDelimiter heads[i]?,
      IsClosedLine cell := by
    intro cell member
    obtain ⟨i, -, rfl⟩ := List.mem_map.mp member
    exact isClosedLine_of_barred (barred _) (clean _).1
  have total : (((List.range columns).map fun i => columnDelimiter heads[i]?).map openBars).sum =
      0 := by
    have each : ∀ i ∈ List.range columns, (openBars ∘ fun i => columnDelimiter heads[i]?) i = 0 :=
      fun i _ => (barred _).openBars_eq
    rw [List.map_map, List.map_congr_left each]
    simp
  have filled : ((List.range columns).map fun i => columnDelimiter heads[i]?) ≠ [] := by
    simpa using shown
  refine ⟨oneLine_tableLine closed, ?_⟩
  rw [(barred_tableLine closed filled).openBars_eq, total, List.length_map, List.length_range,
    Nat.add_zero]

/-! ## Tables -/

section Table

variable {options : SerializeOptions} {content : List Node}

theorem writeNode_table (parent : String) (attributes : List Attribute) (pen : Pen)
    (shown : columnCount content ≠ 0) :
    (writeNode options ElementRule.defaults parent (.element "table" attributes content) pen).1 =
      block (Text.unlines (tableLines options content)) := by
  have table : (writeNode options ElementRule.defaults parent
      (.element "table" attributes content) pen).1 =
        tableBlock ((tableRows content).headD [])
          (writeRows options ElementRule.defaults content (pen.dropping true)).1 := rfl
  have rows : (writeRows options ElementRule.defaults content (pen.dropping true)).1 =
      (tableRows content).map (writtenCells options) := by
    rw [writeRows_eq, writeEach_fst]
    rfl
  have columns : (((tableRows content).map (writtenCells options)).map List.length).foldl max 0 =
      columnCount content := by
    simp only [columnCount, writtenCells, List.map_map, Function.comp_def, List.length_map,
      List.countP_eq_length_filter]
  rw [table, rows, tableBlock]
  dsimp only
  rw [columns, if_neg shown, List.map_map]
  rfl

theorem countP_le_columnCount {row : List Node} (member : row ∈ tableRows content) :
    row.countP isCell ≤ columnCount content :=
  le_foldl_max (List.mem_map_of_mem member) 0

theorem columnCount_ne_zero (shown : ∃ row ∈ tableRows content, row.any isCell) :
    columnCount content ≠ 0 := by
  obtain ⟨row, member, cell⟩ := shown
  have wide := countP_le_columnCount member
  have positive : 0 < row.countP isCell := List.countP_pos_iff.mpr (List.any_eq_true.mp cell)
  omega

theorem isSolid_tableLines : IsSolid (Text.unlines (tableLines options content)) := by
  refine isSolid_unlines (by simp [tableLines, withDelimiters]) fun line member => ?_
  rcases mem_withDelimiters.mp member with rfl | inRows
  · exact isSolid_tableLine _
  · obtain ⟨row, -, rfl⟩ := List.mem_map.mp inRows
    exact isSolid_tableLine _

/-- **Tables keep their shape, but for bars in images, links and code.**  A table whose cells hold
phrasing is written with one line for each row and one line of delimiters.  Each line has one open
bar more than the table has columns, and further ones where the row has stray bars. -/
theorem openBars_lines_table (clean : CleanDelimiters options) (attributes : List Attribute)
    (phrasing : HasPhrasingCells content) (shown : ∃ row ∈ tableRows content, row.any isCell) :
    ∃ t, (∀ parent pen, (writeNode options ElementRule.defaults parent
        (.element "table" attributes content) pen).1 = block t) ∧
      writeDocument options ElementRule.defaults
        (bodyDocument [.element "table" attributes content]) = t ∧
      (Text.lines t).map openBars = withDelimiters (columnCount content + 1)
        ((tableRows content).map fun row => columnCount content + 1 + rowStrayBars row) ∧
      ((∀ line ∈ Text.lines t, openBars line = columnCount content + 1) ↔
        ∀ row ∈ tableRows content, rowStrayBars row = 0) := by
  have columns := columnCount_ne_zero shown
  obtain ⟨oneLine, delimiters⟩ := openBars_delimiterLine columns
  have filled : ∀ row ∈ tableRows content, _ := fun row member =>
    openBars_filledLine clean (phrasing row member) (countP_le_columnCount member) columns
  have lines : Text.lines (Text.unlines (tableLines options content)) =
      tableLines options content := by
    refine Text.lines_unlines (by simp [tableLines, withDelimiters]) fun line member => ?_
    rcases mem_withDelimiters.mp member with rfl | inRows
    · exact oneLine
    · obtain ⟨row, inTable, rfl⟩ := List.mem_map.mp inRows
      exact (filled row inTable).1
  have counts : (tableLines options content).map openBars =
      withDelimiters (columnCount content + 1)
        ((tableRows content).map fun row => columnCount content + 1 + rowStrayBars row) := by
    rw [tableLines, map_withDelimiters, delimiters, List.map_map]
    exact congrArg _ (List.map_congr_left fun row member => (filled row member).2)
  refine ⟨Text.unlines (tableLines options content),
    fun parent pen => writeNode_table parent attributes pen columns, ?_, ?_, ?_⟩
  · exact writeDocument_body rfl isSolid_tableLines
      (Prod.ext (writeNode_table "body" attributes _ columns) rfl) none nofun
  · rw [lines, counts]
  · have each : (∀ line ∈ tableLines options content, openBars line = columnCount content + 1) ↔
        ∀ count ∈ (tableLines options content).map openBars, count = columnCount content + 1 := by
      simp only [List.forall_mem_map]
    rw [lines, each, counts]
    simp [mem_withDelimiters]

/-- A short row with a bar in the title of a link, below a row with bars in text and in code. -/
theorem openBars_lines_table_of_title :
    let content : List Node :=
      [.element "thead" [] [.element "tr" []
        [.element "th" [] [.element "em" [] [.text "a|b".toList]],
          .element "th" [] [.element "code" [] [.text "c|d".toList]]]],
        .element "tr" [] [.element "td" []
          [.element "a" [⟨"href", "x".toList⟩, ⟨"title", "p|q".toList⟩] [.text "e|".toList]]]]
    CleanDelimiters {} ∧ HasPhrasingCells content ∧ (∃ row ∈ tableRows content, row.any isCell) ∧
      (Text.lines (writeDocument {} ElementRule.defaults
        (bodyDocument [.element "table" [] content]))).map openBars = [3, 3, 4] := by
  intro content
  have clean : CleanDelimiters {} := by decide
  have phrasing : HasPhrasingCells content := by decide
  have shown : ∃ row ∈ tableRows content, row.any isCell := ⟨_, List.mem_cons_self, rfl⟩
  refine ⟨clean, phrasing, shown, ?_⟩
  obtain ⟨t, -, written, counts, -⟩ := openBars_lines_table clean [] phrasing shown
  rw [written, counts]
  decide

/-- **A bar in the alternative text of an image divides its cell.**  The delimiters announce one
column, and the row has two. -/
theorem openBars_lines_table_image :
    let content : List Node := [.element "tr" [] [.element "td" []
      [.element "img" [⟨"src", "x".toList⟩, ⟨"alt", "a|b".toList⟩] []]]]
    HasPhrasingCells content ∧ columnCount content = 1 ∧
      (Text.lines (writeDocument {} ElementRule.defaults
        (bodyDocument [.element "table" [] content]))).map openBars = [3, 2] := by
  decide +kernel

end Table

end Serialize

end MarkdownDialects
