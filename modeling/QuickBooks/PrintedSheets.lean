import Mathlib.Algebra.Order.BigOperators.Group.List
import Mathlib.Tactic.Linarith
import QuickBooks.SheetLayout

/-!
# What a laid-out sheet prints

The rows, the totals, the pay box and the notes are printed piece by piece in their order.
They stay above the footer when every block that is kept together fits on a page of its own.
-/

namespace QuickBooks

namespace Pdf

abbrev Piece := Part × List Char

def Part.isContent : Part → Bool
  | .row | .total | .pay | .note => true
  | .header | .columns | .empty | .footer => false

/-- The piece that an operation prints and its height. -/
def shown : Part × Op ℚ → Option (ℚ × Piece)
  | (part, .text place _ _ _ text) =>
    if part.isContent then some (place.y, part, text) else none
  | _ => none

def DrawnPage.contents (page : DrawnPage) : List (ℚ × Piece) :=
  page.ops.filterMap shown

def contents (pages : List DrawnPage) : List (ℚ × Piece) :=
  pages.flatMap DrawnPage.contents

/-! ### The pieces of a sheet -/

def rowPieces (columns : List Column) (row : Row) : List Piece :=
  ((wrappedCells columns row).flatMap RowLines.inked ++ (detailLines columns row).getD []).map
    fun piece => (.row, piece)

def totalPieces (line : TotalLine) : List Piece :=
  [(.total, line.label.toList), (.total, line.value.toList)]

def payPieces (pay : PayBox) : List Piece :=
  (.pay, "PAY ONLINE".toList) :: (payLines pay).map fun line => (.pay, line)

def allNotePieces (notes : List String) : List Piece :=
  if notes = [] then []
  else (.note, "NOTES".toList) :: (notePieces notes).map fun piece => (.note, piece)

def Sheet.pieces (sheet : Sheet) : List Piece :=
  sheet.rows.flatMap (rowPieces sheet.columns) ++
    (sheet.totals.flatMap totalPieces ++
      (sheet.pay.toList.flatMap payPieces ++ allNotePieces sheet.notes))

/-- Every piece of the sheet is printed once, in the order of the sheet and not below the
footer margin of its page. -/
def PrintsAll (job : PrintJob) : Prop :=
  ∃ pages, layoutPages job = some pages ∧
    (contents pages).map Prod.snd = job.sheet.pieces ∧
    ∀ piece ∈ contents pages, bottom ≤ piece.1

/-! ### Printing from one writer to another -/

def Writer.contents (writer : Writer) : List (ℚ × Piece) :=
  Pdf.contents (writer.pages ++ [writer.page])

def Prints (before after : Writer) (pieces : List Piece) (fits : Prop) : Prop :=
  ∃ printed, after.contents = before.contents ++ printed ∧ printed.map Prod.snd = pieces ∧
    ((∀ piece ∈ printed, bottom ≤ piece.1) ↔ fits)

theorem Prints.of_same {before after : Writer} (same : after.contents = before.contents) :
    Prints before after [] True :=
  ⟨[], by simp [same], rfl, by simp⟩

theorem Prints.trans {first second third : Writer} {pieces more : List Piece} {fits fit : Prop}
    (one : Prints first second pieces fits) (two : Prints second third more fit) :
    Prints first third (pieces ++ more) (fits ∧ fit) := by
  obtain ⟨printed, contents, texts, above⟩ := one
  obtain ⟨next, nextContents, nextTexts, nextAbove⟩ := two
  refine ⟨printed ++ next, ?_, ?_, ?_⟩
  · rw [nextContents, contents, List.append_assoc]
  · rw [List.map_append, texts, nextTexts]
  · rw [List.forall_mem_append, above, nextAbove]

theorem Prints.of_iff {before after : Writer} {pieces : List Piece} {fits fit : Prop}
    (printed : Prints before after pieces fits) (iff : fits ↔ fit) :
    Prints before after pieces fit := by
  obtain ⟨new, contents, texts, above⟩ := printed
  exact ⟨new, contents, texts, above.trans iff⟩

def sheetTop : ℚ := pageTop - 62

def tableTop : ℚ := sheetTop - 20

theorem Prints.of_block {before after : Writer} (block : Block ℚ Piece) {top highest : ℚ}
    (le : top ≤ highest) (kept : bottom ≤ top - block.depth ∨ top = highest)
    (written : after.contents = before.contents ++ block.under top) :
    Prints before after (block.pieces.map Prod.snd)
      (∀ piece ∈ block.pieces, bottom - highest ≤ piece.1) :=
  ⟨block.under top, written, by simp [Block.under, Function.comp_def],
    block.above_iff le kept⟩

theorem contents_draw (part : Part) (ops : List (Op ℚ)) (writer : Writer) :
    (writer.draw part ops).contents =
      writer.contents ++ ops.filterMap fun op => shown (part, op) := by
  simp [Writer.contents, contents, Writer.draw, DrawnPage.contents, List.filterMap_map]

theorem contents_linked (writer : Writer) (links : List (Link ℚ)) (y : ℚ) :
    (⟨writer.pages, ⟨writer.page.ops, links⟩, y⟩ : Writer).contents = writer.contents := by
  simp [Writer.contents, contents, DrawnPage.contents]

theorem contents_moved (writer : Writer) (y : ℚ) :
    ({ writer with y := y } : Writer).contents = writer.contents := rfl

theorem shown_eq_none {part : Part} (other : part.isContent = false) (op : Op ℚ) :
    shown (part, op) = none := by
  cases op <;> simp [shown, other]

theorem contents_draw_other {part : Part} (other : part.isContent = false) (ops : List (Op ℚ))
    (writer : Writer) : (writer.draw part ops).contents = writer.contents := by
  simp [contents_draw, shown_eq_none other]

@[simp]
theorem shown_textAt (part : Part) (x y : ℚ) (font : Font) (size : ℚ) (color : Color ℚ)
    (text : List Char) :
    shown (part, .textAt x y font size color text) =
      if part.isContent then some (y, part, text) else none := rfl

@[simp]
theorem shown_textRight (part : Part) (right y : ℚ) (font : Font) (size : ℚ) (color : Color ℚ)
    (text : List Char) :
    shown (part, .textRight right y font size color text) =
      if part.isContent then some (y, part, text) else none := rfl

@[simp]
theorem shown_line (part : Part) (x1 y1 x2 y2 width : ℚ) (color : Color ℚ) :
    shown (part, .line x1 y1 x2 y2 width color) = none := rfl

@[simp]
theorem shown_rectStroke (part : Part) (x y w h width : ℚ) (color : Color ℚ) :
    shown (part, .rectStroke x y w h width color) = none := rfl

@[simp]
theorem shown_cellOp (part : Part) (align : Align) (edges : ℚ × ℚ) (y : ℚ) (font : Font)
    (size : ℚ) (color : Color ℚ) (text : List Char) :
    shown (part, cellOp align edges y font size color text) =
      if part.isContent then some (y, part, text) else none := by
  cases align <;> rfl

theorem exists_start (opened : Writer) (depth : ℚ) {writer : Writer} {highest : ℚ}
    (le : writer.y ≤ highest) (same : opened.contents = writer.contents)
    (top : opened.y = highest) :
    ∃ start, (if writer.y - depth < bottom then opened else writer) = start ∧
      start.contents = writer.contents ∧ start.y ≤ highest ∧
      (bottom ≤ start.y - depth ∨ start.y = highest) := by
  refine ⟨_, rfl, ?_⟩
  split_ifs with low
  · exact ⟨same, top.le, .inr top⟩
  · exact ⟨rfl, le, .inl (not_lt.1 low)⟩

/-! ### Headers -/

section Headers

variable (job : PrintJob) (writer : Writer)

@[simp]
theorem contents_freshPage : (freshPage job).contents = [] := by
  unfold freshPage DrawnPage.contents
  split <;> simp [Op.textRotated, shown, Part.isContent]

@[simp]
theorem contents_newPage : (newPage job writer).contents = writer.contents := by
  unfold newPage shortHeader
  rw [contents_moved, contents_draw_other rfl]
  simp [Writer.contents, contents]

@[simp]
theorem newPage_y : (newPage job writer).y = sheetTop := by
  change pageTop - 38 - 24 = pageTop - 62
  rw [sub_sub]
  norm_num

@[simp]
theorem contents_tableHeader : (tableHeader job writer).contents = writer.contents := by
  unfold tableHeader
  rw [contents_moved, contents_draw_other rfl]

@[simp]
theorem tableHeader_y : (tableHeader job writer).y = writer.y - 20 := rfl

@[simp]
theorem contents_emptyTable : (emptyTable job writer).contents = writer.contents := by
  unfold emptyTable
  split
  · rw [contents_moved, contents_draw_other rfl]
  · rfl

theorem emptyTable_y_le : (emptyTable job writer).y ≤ writer.y := by
  unfold emptyTable
  split
  · simp [leading]
    norm_num
  · exact le_rfl

@[simp]
theorem contents_fullHeader : (fullHeader job writer).contents = writer.contents := by
  unfold fullHeader
  rw [contents_moved, contents_draw_other rfl]

theorem foldl_min_le (heights : List ℚ) (y : ℚ) : heights.foldl min y ≤ y := by
  induction heights generalizing y with
  | nil => exact le_rfl
  | cons height heights ih => exact (ih _).trans (min_le_left _ _)

theorem fullHeader_y_le : (fullHeader job writer).y ≤ sheetTop := by
  unfold fullHeader
  simp only
  refine (sub_le_sub_right (foldl_min_le _ _) _).trans ?_
  have lines : (0 : ℚ) ≤ job.sheet.metaLines.length := Nat.cast_nonneg _
  have header := min_le_right
    ((wordmark job).2 - 125 / 10 * ((companyLines job).length : ℚ))
    (pageTop - 38 - 13 * (job.sheet.metaLines.length : ℚ))
  unfold sheetTop
  linarith

end Headers

/-! ### Rows -/

section Rows

variable {columns : List Column}

theorem length_columnEdges : (columnEdges columns).length = columns.length := by
  simp [columnEdges]

theorem length_wrappedCells_le (row : Row) :
    (wrappedCells columns row).length ≤ columns.length := by
  simp [wrappedCells, length_columnEdges]

theorem detailLines_eq_none_iff (row : Row) :
    detailLines columns row = none ↔ columns = [] ∧ row.detail ≠ none := by
  cases detail : row.detail with
  | none => simp [detailLines, detail]
  | some text =>
    have inside : columns ≠ [] → flexColumn columns < columns.length := by
      intro nonempty
      unfold flexColumn
      cases found : columns.findIdx? fun column => decide (column.width = 0) with
      | none => exact List.length_pos_iff.2 nonempty
      | some index => exact (List.findIdx?_eq_some_iff_findIdx_eq.1 found).1
    simp only [detailLines, detail, Option.map_eq_none_iff, List.getElem?_eq_none_iff,
      length_columnEdges, ne_eq, reduceCtorEq, not_false_eq_true, and_true]
    constructor
    · intro beyond
      by_contra nonempty
      exact absurd (inside nonempty) (not_lt.2 beyond)
    · rintro rfl
      exact Nat.zero_le _

theorem le_foldl_max (lengths : List ℕ) (start : ℕ) :
    start ≤ lengths.foldl max start ∧ ∀ length ∈ lengths, length ≤ lengths.foldl max start := by
  induction lengths generalizing start with
  | nil => simp
  | cons length lengths ih =>
    obtain ⟨above, all⟩ := ih (max start length)
    simp only [List.foldl_cons, List.forall_mem_cons]
    exact ⟨(le_max_left _ _).trans above, (le_max_right _ _).trans above, all⟩

namespace RowLines

variable (lines : RowLines)

theorem length_le_count {cell : List (List Char)} (mem : cell ∈ lines.cells) :
    cell.length ≤ lines.count :=
  ((le_foldl_max _ 1).2 _ (List.mem_map_of_mem mem)).trans (le_max_left _ _)

theorem length_inked_le (cell : List (List Char)) : (inked cell).length ≤ cell.length :=
  List.length_filter_le _ _

def placed : List (ℚ × List Char) :=
  (lines.cells.flatMap fun cell => stacked 0 leading (inked cell)) ++
    stacked (-(lines.flexLines * leading)) leading lines.details

theorem placed_within :
    ∀ piece ∈ lines.placed, -lines.depth ≤ piece.1 := by
  have step : (0 : ℚ) ≤ leading := by norm_num [leading]
  have deep : ∀ count : ℕ, count ≤ lines.count → (count - 1 : ℕ) * leading ≤ lines.depth := by
    intro count le
    have fewer : ((count - 1 : ℕ) : ℚ) ≤ (lines.count - 1 : ℕ) := by
      exact_mod_cast Nat.sub_le_sub_right le 1
    unfold depth
    linarith [mul_le_mul_of_nonneg_right fewer step]
  unfold placed
  rw [List.forall_mem_append]
  constructor
  · simp only [List.mem_flatMap]
    rintro piece ⟨cell, cellMem, mem⟩
    refine (le_stacked_iff step _ _ _).2 ?_ piece mem
    intro _
    have := deep _ ((length_inked_le cell).trans (lines.length_le_count cellMem))
    rw [nsmul_eq_mul]
    linarith
  · rw [le_stacked_iff step]
    intro some
    have positive := List.length_pos_iff.2 some
    have := deep (lines.flexLines + lines.details.length) (le_max_right _ _)
    have split : lines.flexLines + lines.details.length - 1 =
        lines.flexLines + (lines.details.length - 1) := by omega
    rw [split, Nat.cast_add, add_mul] at this
    rw [nsmul_eq_mul]
    linarith

def block : Block ℚ Piece where
  pieces := lines.placed.map fun piece => (piece.1, .row, piece.2)
  depth := lines.depth
  within := by
    simpa only [List.forall_mem_map] using lines.placed_within

def Fits : Prop :=
  (∀ cell ∈ lines.cells, (inked cell).length ≤ 48) ∧
    (lines.details ≠ [] → lines.flexLines + lines.details.length ≤ 48)

theorem lines_fit_iff (count : ℕ) : bottom - tableTop ≤ -(count * leading) ↔ count ≤ 47 := by
  have room : bottom - tableTop = -(5728 / 10) := by
    norm_num [bottom, margin, tableTop, sheetTop, pageTop, pageHeight]
  rw [room, neg_le_neg_iff, leading]
  constructor
  · intro fits
    by_contra more
    have : (48 : ℚ) ≤ count := by exact_mod_cast Nat.lt_of_not_le more
    linarith
  · intro few
    have : (count : ℚ) ≤ 47 := by exact_mod_cast few
    linarith

theorem fits_iff :
    (∀ piece ∈ lines.block.pieces, bottom - tableTop ≤ piece.1) ↔ lines.Fits := by
  have step : (0 : ℚ) ≤ leading := by norm_num [leading]
  have cells : (∀ piece ∈ lines.cells.flatMap fun cell => stacked 0 leading (inked cell),
      bottom - tableTop ≤ piece.1) ↔ ∀ cell ∈ lines.cells, (inked cell).length ≤ 48 := by
    simp only [List.mem_flatMap, forall_exists_index, and_imp]
    rw [forall_comm]
    refine forall_congr' fun cell => ?_
    rw [forall_comm]
    refine forall_congr' fun _ => ?_
    rw [le_stacked_iff step, zero_sub, nsmul_eq_mul, lines_fit_iff]
    cases inked cell with
    | nil => simp
    | cons _ _ =>
      simp only [ne_eq, reduceCtorEq, not_false_eq_true, forall_const, List.length_cons,
        Nat.add_sub_cancel]
      omega
  have details : (∀ piece ∈ stacked (-(lines.flexLines * leading)) leading lines.details,
      bottom - tableTop ≤ piece.1) ↔
      (lines.details ≠ [] → lines.flexLines + lines.details.length ≤ 48) := by
    rw [le_stacked_iff step]
    refine forall_congr' fun some => ?_
    have positive := List.length_pos_iff.2 some
    have last : -(lines.flexLines * leading) - (lines.details.length - 1) • leading =
        -(((lines.flexLines + (lines.details.length - 1) : ℕ) : ℚ) * leading) := by
      rw [nsmul_eq_mul, Nat.cast_add, add_mul, neg_add']
    rw [last, lines_fit_iff]
    omega
  simp only [block, List.forall_mem_map, placed, List.forall_mem_append, cells, details, Fits]

theorem shown_ops (le : lines.cells.length ≤ columns.length) (top : ℚ) :
    ((lines.ops columns top).filterMap fun op => shown (.row, op)) = lines.block.under top := by
  have cellsOf : (((lines.cells.zip columns).zip (columnEdges columns)).map Prod.fst).map
      Prod.fst = lines.cells := by
    rw [List.map_fst_zip, List.map_fst_zip le]
    simp [length_columnEdges]
  have cellPieces : (((lines.cells.zip columns).zip (columnEdges columns)).flatMap
      fun place => (stacked top leading (inked place.1.1)).map fun piece =>
        ((piece.1, .row, piece.2) : ℚ × Piece)) =
      lines.cells.flatMap fun cell => (stacked top leading (inked cell)).map fun piece =>
        (piece.1, .row, piece.2) := by
    conv_rhs => rw [← cellsOf, List.map_map, List.flatMap_map]
    rfl
  have fromTop : ∀ pieces : List (List Char), stacked top leading pieces =
      (stacked 0 leading pieces).map fun piece => (top + piece.1, piece.2) := by
    intro pieces
    rw [← stacked_add, add_zero]
  unfold ops block Block.under placed
  simp only [List.filterMap_append, List.filterMap_flatMap, List.filterMap_map,
    Function.comp_def, shown_cellOp, shown_textAt, Part.isContent, if_true, sub_eq_add_neg,
    stacked_add, List.filterMap_eq_map', cellPieces, List.map_append, List.map_map,
    List.map_flatMap]
  simp only [fromTop, List.map_map, Function.comp_def]

end RowLines

theorem writeRow_prints (job : PrintJob) {writer after : Writer} {row : Row}
    (le : writer.y ≤ tableTop) (written : writeRow job writer row = some after) :
    ∃ lines, rowLines job.sheet.columns row = some lines ∧
      Prints writer after (rowPieces job.sheet.columns row) lines.Fits ∧
      after.y ≤ tableTop := by
  unfold writeRow at written
  simp only [Option.bind_eq_bind, Option.bind_eq_some_iff, Option.pure_def,
    Option.some.injEq] at written
  obtain ⟨lines, found, written⟩ := written
  refine ⟨lines, found, ?_⟩
  simp only [rowLines, Option.bind_eq_bind, Option.bind_eq_some_iff, Option.pure_def,
    Option.some.injEq] at found
  obtain ⟨details, detail, same⟩ := found
  have cells : lines.cells.length ≤ job.sheet.columns.length := by
    rw [← same]
    exact length_wrappedCells_le row
  have pieces : lines.block.pieces.map Prod.snd = rowPieces job.sheet.columns row := by
    rw [← same]
    simp [RowLines.block, RowLines.placed, rowPieces, detail, Function.comp_def,
      List.map_flatMap]
  have nonneg : 0 ≤ lines.depth := by
    unfold RowLines.depth leading
    positivity
  obtain ⟨start, begun, contents, top, kept⟩ :=
    exists_start (tableHeader job (newPage job writer)) lines.depth le (by simp)
      (by simp [tableTop])
  rw [begun] at written
  subst written
  constructor
  · rw [← pieces]
    refine (Prints.of_block lines.block top kept ?_).of_iff lines.fits_iff
    rw [contents_moved, contents_draw, List.filterMap_append, lines.shown_ops cells, contents]
    simp
  · change start.y - lines.depth - leading - 1 ≤ tableTop
    unfold leading
    linarith

def RowFits (columns : List Column) (row : Row) : Prop :=
  ∀ lines, rowLines columns row = some lines → lines.Fits

theorem rows_print (job : PrintJob) {writer after : Writer} (rows : List Row)
    (le : writer.y ≤ tableTop) (written : rows.foldlM (writeRow job) writer = some after) :
    Prints writer after (rows.flatMap (rowPieces job.sheet.columns))
        (∀ row ∈ rows, RowFits job.sheet.columns row) ∧
      after.y ≤ tableTop := by
  induction rows generalizing writer with
  | nil =>
    simp only [List.foldlM_nil, Option.pure_def, Option.some.injEq] at written
    subst written
    exact ⟨(Prints.of_same rfl).of_iff (by simp), le⟩
  | cons row rows ih =>
    simp only [List.foldlM_cons, Option.bind_eq_bind, Option.bind_eq_some_iff] at written
    obtain ⟨next, first, rest⟩ := written
    obtain ⟨lines, found, printed, nextLe⟩ := writeRow_prints job le first
    obtain ⟨others, afterLe⟩ := ih nextLe rest
    refine ⟨(printed.trans others).of_iff ?_, afterLe⟩
    simp [RowFits, found]

theorem exists_rows_iff (job : PrintJob) (writer : Writer) (rows : List Row) :
    (∃ after, rows.foldlM (writeRow job) writer = some after) ↔
      ∀ row ∈ rows, row.detail ≠ none → job.sheet.columns ≠ [] := by
  induction rows generalizing writer with
  | nil => simp
  | cons row rows ih =>
    have one : (∃ next, writeRow job writer row = some next) ↔
        (row.detail ≠ none → job.sheet.columns ≠ []) := by
      have lines : detailLines job.sheet.columns row = none ↔
          job.sheet.columns = [] ∧ row.detail ≠ none := detailLines_eq_none_iff row
      cases detail : detailLines job.sheet.columns row with
      | none =>
        rw [detail] at lines
        obtain ⟨empty, some⟩ := lines.1 rfl
        have refused : writeRow job writer row = Option.none := by
          simp only [writeRow, rowLines, detail]
          rfl
        rw [refused]
        simp [empty, some]
      | some details =>
        rw [detail] at lines
        have held : ¬ (job.sheet.columns = [] ∧ row.detail ≠ none) := by
          rw [← lines]
          simp
        refine iff_of_true ⟨_, by simp only [writeRow, rowLines, detail]; rfl⟩ ?_
        intro some empty
        exact held ⟨empty, some⟩
    simp only [List.foldlM_cons, Option.bind_eq_bind, Option.bind_eq_some_iff,
      List.forall_mem_cons, ← one]
    constructor
    · rintro ⟨after, next, first, rest⟩
      exact ⟨⟨next, first⟩, (ih next).1 ⟨after, rest⟩⟩
    · rintro ⟨⟨next, first⟩, others⟩
      obtain ⟨after, rest⟩ := (ih next).2 others
      exact ⟨after, next, first, rest⟩

end Rows

/-! ### Totals -/

section Totals

def totalLead (line : TotalLine) : ℚ :=
  if line.emphasis then 6 else 0

def placedTotals (y : ℚ) : List TotalLine → List (ℚ × Piece)
  | [] => []
  | line :: lines =>
    (totalPieces line).map (fun piece => (y - totalLead line, piece)) ++
      placedTotals (y - totalDepth line) lines

theorem placedTotals_add (top y : ℚ) (lines : List TotalLine) :
    placedTotals (top + y) lines =
      (placedTotals y lines).map fun piece => (top + piece.1, piece.2) := by
  induction lines generalizing y with
  | nil => rfl
  | cons line lines ih => simp [placedTotals, add_sub_assoc, ih, Function.comp_def]

theorem map_placedTotals (y : ℚ) (lines : List TotalLine) :
    (placedTotals y lines).map Prod.snd = lines.flatMap totalPieces := by
  induction lines generalizing y with
  | nil => rfl
  | cons line lines ih => simp [placedTotals, ih, Function.comp_def]

theorem totalLead_le (line : TotalLine) : totalLead line ≤ totalDepth line := by
  unfold totalLead totalDepth
  split_ifs <;> norm_num

theorem totalDepth_nonneg (line : TotalLine) : 0 ≤ totalDepth line := by
  unfold totalDepth
  split_ifs <;> norm_num

theorem le_placedTotals_iff (floor y : ℚ) (lines : List TotalLine) :
    (∀ piece ∈ placedTotals y lines, floor ≤ piece.1) ↔
      ∀ above line below, lines = above ++ line :: below →
        floor ≤ y - ((above.map totalDepth).sum + totalLead line) := by
  induction lines generalizing y with
  | nil => simp [placedTotals]
  | cons line lines ih =>
    simp only [placedTotals, List.forall_mem_append, ih, List.forall_mem_map, totalPieces,
      List.forall_mem_cons, List.not_mem_nil, IsEmpty.forall_iff, implies_true, and_true,
      and_self]
    constructor
    · rintro ⟨first, rest⟩ above line' below split
      cases above with
      | nil =>
        obtain ⟨rfl, rfl⟩ := List.cons_eq_cons.1 split
        simpa using first
      | cons head above =>
        obtain ⟨rfl, others⟩ := List.cons_eq_cons.1 split
        have := rest above line' below others
        rw [List.map_cons, List.sum_cons]
        linarith
    · intro all
      refine ⟨by simpa using all [] line lines rfl, ?_⟩
      intro above line' below split
      have := all (line :: above) line' below (by rw [split]; rfl)
      rw [List.map_cons, List.sum_cons] at this
      linarith

def totalsBlock (lines : List TotalLine) : Block ℚ Piece where
  pieces := placedTotals (-6) lines
  depth := (lines.map totalDepth).sum + 10
  within := by
    rw [le_placedTotals_iff]
    rintro above line below rfl
    have belowNonneg : 0 ≤ (below.map totalDepth).sum :=
      List.sum_nonneg (by simp [totalDepth_nonneg])
    have := totalLead_le line
    rw [List.map_append, List.sum_append, List.map_cons, List.sum_cons]
    linarith

def TotalsFit (lines : List TotalLine) : Prop :=
  ∀ above line below, lines = above ++ line :: below →
    (above.map totalDepth).sum + totalLead line ≤ 5868 / 10

theorem totalsFit_iff (lines : List TotalLine) :
    (∀ piece ∈ (totalsBlock lines).pieces, bottom - sheetTop ≤ piece.1) ↔ TotalsFit lines := by
  have room : bottom - sheetTop = -6 - 5868 / 10 := by
    norm_num [bottom, margin, sheetTop, pageTop, pageHeight]
  simp only [totalsBlock, le_placedTotals_iff, room, sub_le_sub_iff_left, TotalsFit]

theorem writeTotals (lines : List TotalLine) (writer : Writer) :
    (lines.foldl writeTotal writer).contents =
        writer.contents ++ placedTotals writer.y lines ∧
      (lines.foldl writeTotal writer).y ≤ writer.y := by
  induction lines generalizing writer with
  | nil => simp [placedTotals]
  | cons line lines ih =>
    have first : (writeTotal writer line).contents = writer.contents ++
        (totalPieces line).map fun piece => (writer.y - totalLead line, piece) := by
      unfold writeTotal
      rw [contents_moved, contents_draw]
      unfold totalOps totalPieces totalLead
      split_ifs <;> simp [List.filterMap_cons, Part.isContent]
    obtain ⟨contents, le⟩ := ih (writeTotal writer line)
    refine ⟨?_, le.trans (sub_le_self _ (totalDepth_nonneg line))⟩
    rw [List.foldl_cons, contents, first, List.append_assoc]
    rfl

theorem totals_print (job : PrintJob) {writer : Writer} (le : writer.y ≤ sheetTop) :
    Prints writer (totals job writer) (job.sheet.totals.flatMap totalPieces)
        (TotalsFit job.sheet.totals) ∧
      (totals job writer).y ≤ sheetTop := by
  let block := totalsBlock job.sheet.totals
  obtain ⟨start, begun, contents, top, kept⟩ :=
    exists_start (newPage job writer) block.depth le (by simp) (by simp)
  obtain ⟨written, lower⟩ := writeTotals job.sheet.totals { start with y := start.y - 6 }
  have same : totals job writer =
      { job.sheet.totals.foldl writeTotal { start with y := start.y - 6 } with
        y := (job.sheet.totals.foldl writeTotal { start with y := start.y - 6 }).y - 6 } := by
    rw [← begun]
    rfl
  rw [same]
  constructor
  · rw [← map_placedTotals (-6)]
    refine (Prints.of_block block top kept ?_).of_iff (totalsFit_iff _)
    rw [contents_moved, written, contents_moved, contents]
    simp only [sub_eq_add_neg, placedTotals_add]
    rfl
  · simp only at lower ⊢
    linarith

end Totals

/-! ### Pay box -/

section PayBoxes

def payBlock (pay : PayBox) : Block ℚ Piece where
  pieces := (-16, .pay, "PAY ONLINE".toList) ::
    (stacked (-30) 12 (payLines pay)).map fun piece => (piece.1, .pay, piece.2)
  depth := payHeight pay
  within := by
    unfold payHeight
    have count : (0 : ℚ) ≤ (payLines pay).length := Nat.cast_nonneg _
    have fewer : (((payLines pay).length - 1 : ℕ) : ℚ) ≤ (payLines pay).length := by
      exact_mod_cast Nat.sub_le _ _
    rw [List.forall_mem_cons, List.forall_mem_map]
    refine ⟨by linarith, ?_⟩
    rw [le_stacked_iff (by norm_num)]
    intro some
    have positive : 1 ≤ (payLines pay).length := List.length_pos_iff.2 some
    rw [nsmul_eq_mul, Nat.cast_sub positive, Nat.cast_one]
    linarith

def PayFits (pay : PayBox) : Prop :=
  (payLines pay).length ≤ 47

theorem payFits_iff (pay : PayBox) :
    (∀ piece ∈ (payBlock pay).pieces, bottom - sheetTop ≤ piece.1) ↔ PayFits pay := by
  have room : bottom - sheetTop = -(5928 / 10) := by
    norm_num [bottom, margin, sheetTop, pageTop, pageHeight]
  simp only [payBlock, List.forall_mem_cons, List.forall_mem_map]
  rw [le_stacked_iff (by norm_num), room, PayFits, nsmul_eq_mul]
  constructor
  · rintro ⟨-, fits⟩
    by_contra more
    have many : (48 : ℚ) ≤ (payLines pay).length := by
      exact_mod_cast Nat.lt_of_not_le more
    have some : payLines pay ≠ [] := List.length_pos_iff.1 (by omega)
    have last := fits some
    rw [Nat.cast_sub (by omega), Nat.cast_one] at last
    linarith
  · intro few
    refine ⟨by norm_num, fun _ => ?_⟩
    have : (((payLines pay).length - 1 : ℕ) : ℚ) ≤ 46 := by
      exact_mod_cast (by omega : (payLines pay).length - 1 ≤ 46)
    linarith

theorem contents_drawPay (pay : PayBox) (writer : Writer) :
    (drawPay pay writer).contents = writer.contents ++ (payBlock pay).under writer.y := by
  unfold drawPay
  refine (contents_linked _ _ _).trans ?_
  rw [contents_draw]
  simp [Block.under, payBlock, Part.isContent, sub_eq_add_neg, stacked_add, List.filterMap_cons,
    List.filterMap_map, Function.comp_def]

theorem payBox_print (job : PrintJob) {writer : Writer} (le : writer.y ≤ sheetTop) :
    Prints writer (payBox job writer) (job.sheet.pay.toList.flatMap payPieces)
      (∀ pay, job.sheet.pay = some pay → PayFits pay) := by
  cases asked : job.sheet.pay with
  | none =>
    have same : payBox job writer = writer := by
      unfold payBox
      rw [asked]
    rw [same]
    exact (Prints.of_same rfl).of_iff (by simp)
  | some pay =>
    obtain ⟨start, begun, contents, top, kept⟩ :=
      exists_start (newPage job writer) (payBlock pay).depth le (by simp) (by simp)
    have pieces : (payBlock pay).pieces.map Prod.snd = [pay].flatMap payPieces := by
      simp [payBlock, payPieces, Function.comp_def]
    rw [Option.toList_some, ← pieces]
    refine (Prints.of_block (payBlock pay) top kept ?_).of_iff ((payFits_iff pay).trans (by simp))
    unfold payBox
    rw [asked]
    change (drawPay pay (if writer.y - (payBlock pay).depth < bottom then newPage job writer
      else writer)).contents = _
    rw [begun, contents_drawPay, contents]

end PayBoxes

/-! ### Notes -/

section Notes

variable (job : PrintJob)

theorem writeNote_prints (writer : Writer) (piece : List Char) :
    Prints writer (writeNote job writer piece) [(.note, piece)] True := by
  unfold writeNote
  refine ⟨[((if writer.y < bottom then newPage job writer else writer).y, .note, piece)],
    ?_, rfl, ?_⟩
  · rw [contents_moved, contents_draw]
    split_ifs <;> simp [Part.isContent]
  · simp only [List.forall_mem_singleton, iff_true]
    split_ifs with low
    · norm_num [sheetTop, bottom, margin, pageTop, pageHeight]
    · exact not_lt.1 low

theorem writeNotes_print (pieces : List (List Char)) (writer : Writer) :
    Prints writer (pieces.foldl (writeNote job) writer) (pieces.map fun piece => (.note, piece))
      True := by
  induction pieces generalizing writer with
  | nil => exact Prints.of_same rfl
  | cons piece pieces ih =>
    exact ((writeNote_prints job writer piece).trans (ih _)).of_iff (and_self_iff)

theorem drawNotes_prints {writer : Writer} (room : bottom ≤ writer.y) :
    Prints writer (drawNotes job writer)
      ((.note, "NOTES".toList) :: (notePieces job.sheet.notes).map fun piece => (.note, piece))
      True := by
  have heading : Prints writer
      { writer.draw .note [.textAt margin writer.y .bold 9 navy "NOTES".toList] with
        y := writer.y - 14 } [(.note, "NOTES".toList)] True := by
    refine ⟨[(writer.y, .note, "NOTES".toList)], ?_, rfl, by simpa using room⟩
    rw [contents_moved, contents_draw]
    simp [Part.isContent]
  exact (heading.trans (writeNotes_print job _ _)).of_iff (and_self_iff)

theorem notes_print (writer : Writer) :
    Prints writer (notes job writer) (allNotePieces job.sheet.notes) True := by
  unfold notes allNotePieces
  split
  · exact Prints.of_same rfl
  · split_ifs with low
    · have begun : Prints writer (newPage job writer) [] True := Prints.of_same (by simp)
      have room : bottom ≤ (newPage job writer).y := by
        norm_num [sheetTop, bottom, margin, pageTop, pageHeight]
      exact (begun.trans (drawNotes_prints job room)).of_iff (and_self_iff)
    · exact drawNotes_prints job (by linarith)

end Notes

/-! ### The document -/

theorem contents_footers (job : PrintJob) (pages : List DrawnPage) :
    contents (footers job pages) = contents pages := by
  have page : ∀ (page : DrawnPage) (index : ℕ),
      ({ page with ops := page.ops ++
        (footerOps job pages.length index).map fun op => (.footer, op) } : DrawnPage).contents =
      page.contents := by
    intro page index
    have other : Part.footer.isContent = false := rfl
    simp [DrawnPage.contents, List.filterMap_map, shown_eq_none other]
  unfold contents footers
  rw [List.flatMap_map]
  conv_rhs => rw [← List.zipIdx_map_fst 0 pages, List.flatMap_map]
  exact List.flatMap_congr fun place _ => page place.1 place.2

/-- Every block of the sheet that is kept together fits on a page, and a detail has a column
to be printed in. -/
structure Sheet.Fits (sheet : Sheet) : Prop where
  columns : ∀ row ∈ sheet.rows, row.detail ≠ none → sheet.columns ≠ []
  rows : ∀ row ∈ sheet.rows, RowFits sheet.columns row
  totals : TotalsFit sheet.totals
  pay : ∀ pay, sheet.pay = some pay → PayFits pay

/-- A sheet is printed whole and above the footers of its pages exactly when its blocks fit. -/
theorem layout_printsAll_iff (job : PrintJob) : PrintsAll job ↔ job.sheet.Fits := by
  let start := emptyTable job (tableHeader job (fullHeader job ⟨[], freshPage job, 0⟩))
  have begun : start.contents = [] := by
    simp only [start, contents_emptyTable, contents_tableHeader, contents_fullHeader]
    simp [Writer.contents, contents]
  have high : start.y ≤ tableTop := by
    refine (emptyTable_y_le _ _).trans ?_
    rw [tableHeader_y, tableTop]
    exact sub_le_sub_right (fullHeader_y_le _ _) _
  have unfolded : layoutPages job = (job.sheet.rows.foldlM (writeRow job) start).map fun table =>
      let last := notes job (payBox job (totals job table))
      footers job (last.pages ++ [last.page]) := by
    rw [Option.map_eq_bind]
    rfl
  have written := exists_rows_iff job start job.sheet.rows
  cases table : job.sheet.rows.foldlM (writeRow job) start with
  | none =>
    have refused : ¬ ∀ row ∈ job.sheet.rows, row.detail ≠ none → job.sheet.columns ≠ [] := by
      rw [← written, table]
      simp
    refine iff_of_false ?_ fun fits => refused fits.columns
    rintro ⟨pages, laid, -⟩
    simp [unfolded, table] at laid
  | some after =>
    obtain ⟨rowsPrinted, afterLe⟩ := rows_print job job.sheet.rows high table
    have tableLe : tableTop ≤ sheetTop := by
      norm_num [tableTop]
    obtain ⟨totalsPrinted, totalsLe⟩ := totals_print job (afterLe.trans tableLe)
    have all := rowsPrinted.trans (totalsPrinted.trans
      ((payBox_print job totalsLe).trans (notes_print job _)))
    obtain ⟨printed, holds, texts, above⟩ := all
    rw [begun, List.nil_append] at holds
    obtain ⟨pages, laid, same⟩ :
        ∃ pages, layoutPages job = some pages ∧ contents pages = printed := by
      rw [unfolded, table]
      exact ⟨_, rfl, (contents_footers _ _).trans holds⟩
    have columns := written.1 ⟨after, table⟩
    simp only [PrintsAll, laid, Option.some.injEq, exists_eq_left', same, above]
    constructor
    · rintro ⟨-, fits⟩
      exact ⟨columns, fits.1, fits.2.1, fits.2.2.1⟩
    · intro fits
      exact ⟨texts, fits.rows, fits.totals, fits.pay, trivial⟩

/-- An invoice with one line whose description has sixty lines. -/
def longInvoice : PrintJob where
  sheet :=
    { title := "INVOICE"
      metaLines := [("Invoice #", "1001")]
      left := ⟨"BILL TO", ["Ada"]⟩
      right := none
      columns := [⟨"DESCRIPTION", 0, .left⟩, ⟨"AMOUNT", 80, .right⟩]
      rows :=
        [⟨[String.ofList (List.replicate 60 ['x', '\n']).flatten, "$5.00"], none⟩]
      emptyText := none
      totals := [⟨"TOTAL", "$5.00", true⟩]
      pay := none
      notes := []
      void := false }
  identity := ⟨"Shop", none, [], none, none, none, none⟩
  logo := none
  watermark := (0, 1)

/-- The last lines of the long description are below the footer, and off the page. -/
theorem longInvoice_runs_off_the_page :
    ¬ PrintsAll longInvoice ∧
      ((layoutPages longInvoice).map fun pages =>
        (contents pages).any fun piece => decide (piece.1 < 0)) = some true := by
  have low : ((layoutPages longInvoice).map fun pages =>
      (contents pages).any fun piece => decide (piece.1 < 0)) = some true := by
    decide +kernel
  refine ⟨?_, low⟩
  rintro ⟨pages, laid, -, above⟩
  rw [laid, Option.map_some, Option.some.injEq, List.any_eq_true] at low
  obtain ⟨piece, mem, negative⟩ := low
  have positive : (0 : ℚ) ≤ bottom := by norm_num [bottom, margin]
  exact absurd (of_decide_eq_true negative) (not_lt.2 (positive.trans (above piece mem)))

end Pdf

end QuickBooks
