import Mathlib.Algebra.Order.Field.Rat
import QuickBooks.PdfPages
import QuickBooks.StackedBlocks

/-!
# Laying a sheet out

A sheet is printed from the top of its first page down: header, table, totals, pay box and
notes.  Before a row, the totals and the pay box the depth of the block decides whether a new
page is begun; the notes decide for every line.  Each operation is kept with the part of the
sheet that it prints.
-/

namespace QuickBooks

namespace Pdf

inductive Align where
  | left
  | right

/-- A column of width zero takes what the others leave. -/
structure Column where
  label : String
  width : ℚ
  align : Align

structure Row where
  cells : List String
  detail : Option String

structure TotalLine where
  label : String
  value : String
  emphasis : Bool

structure AddressBlock where
  label : String
  lines : List String

structure PayBox where
  lines : List String
  uri : Option String

structure Sheet where
  title : String
  metaLines : List (String × String)
  left : AddressBlock
  right : Option AddressBlock
  columns : List Column
  rows : List Row
  emptyText : Option String
  totals : List TotalLine
  pay : Option PayBox
  notes : List String
  void : Bool

structure CompanyIdentity where
  name : String
  legalName : Option String
  address : List String
  phone : Option String
  email : Option String
  website : Option String
  footer : Option String

/-- What an operation prints. -/
inductive Part where
  | header
  | columns
  | row
  | empty
  | total
  | pay
  | note
  | footer
deriving DecidableEq

structure DrawnPage where
  ops : List (Part × Op ℚ)
  links : List (Link ℚ)

/-- The sheet, whose it is, the logo with its size in pixels and the sine and cosine of the
angle of the watermark. -/
structure PrintJob where
  sheet : Sheet
  identity : CompanyIdentity
  logo : Option (ℕ × ℕ × ℕ)
  watermark : ℚ × ℚ

structure Writer where
  pages : List DrawnPage
  page : DrawnPage
  y : ℚ

def navy : Color ℚ := .hex 0x1B3A5B
def grey : Color ℚ := .hex 0x888888
def dark : Color ℚ := .hex 0x444444
def rule : Color ℚ := .hex 0xCCCCCC
def voidRed : Color ℚ := .hex 0xF2C4C4

def pageWidth : ℚ := 612
def pageHeight : ℚ := 792
def margin : ℚ := 576 / 10
def bottom : ℚ := margin + 22
def pad : ℚ := 6
def body : ℚ := 95 / 10
def leading : ℚ := 12
def contentWidth : ℚ := pageWidth - 2 * margin
def pageTop : ℚ := pageHeight - margin
def rightEdge : ℚ := pageWidth - margin

def Writer.draw (part : Part) (ops : List (Op ℚ)) (writer : Writer) : Writer :=
  { writer with
    page := { writer.page with ops := writer.page.ops ++ ops.map fun op => (part, op) } }

section Layout

variable (job : PrintJob)

/-! ### Headers -/

def freshPage : DrawnPage where
  ops :=
    if job.sheet.void then
      [(.header, .textRotated job.watermark (pageWidth / 2, pageHeight / 2) .bold 170 voidRed
        "VOID".toList)]
    else []
  links := []

/-- The logo or the name, and the height of the first line under it. -/
def wordmark : Op ℚ × ℚ :=
  match job.logo with
  | some (index, w, h) =>
    let scale := min (180 / (w : ℚ)) (64 / (h : ℚ))
    let lw := w * scale
    let lh := h * scale
    (.image index margin (pageTop - lh + 4) lw lh, pageTop - lh - 10)
  | none =>
    (.textAt margin (pageTop - 18) .bold 22 navy job.identity.name.toList, pageTop - 34)

def companyLines : List String :=
  let identity := job.identity
  let legal := match identity.legalName with
    | some legal => if legal ≠ identity.name ∨ job.logo.isSome then [legal] else []
    | none => []
  let contact :=
    identity.phone.toList ++ identity.email.toList ++ identity.website.toList
  legal ++ identity.address ++
    if contact = [] then [] else ["  •  ".intercalate contact]

def metaOps (y : ℚ) (entry : String × String) : List (Op ℚ) :=
  let value := entry.2.toList
  [.textRight (rightEdge - textWidth .regular 9 value - 4) y .bold 9 navy
      (entry.1 ++ ":").toList,
    .textRight rightEdge y .regular 9 .black value]

/-- The lines of an address; the first is bold. -/
def addressPieces (block : AddressBlock) : List (Font × List Char) :=
  block.lines.zipIdx.flatMap fun (line, index) =>
    let font : Font := if index = 0 then .bold else .regular
    (wrap font 10 line.toList (pageWidth / 2 - margin - 20)).map fun piece => (font, piece)

def addressOps (x y : ℚ) (block : AddressBlock) : List (Op ℚ) :=
  .textAt x y .bold (95 / 10) navy block.label.toList ::
    (stacked (y - 15) (135 / 10) (addressPieces block)).map fun (height, font, piece) =>
      .textAt x height font 10 .black piece

def addressFoot (y : ℚ) (block : AddressBlock) : ℚ :=
  y - 15 - 135 / 10 * (addressPieces block).length

def fullHeader (writer : Writer) : Writer :=
  let (mark, leftTop) := wordmark job
  let company := companyLines job
  let companyOps := (stacked leftTop (125 / 10) company).map fun (height, line) =>
    Op.textAt margin height .regular 9 dark line.toList
  let metaTop := pageTop - 38
  let metaFoot := metaTop - 13 * job.sheet.metaLines.length
  let y := min (leftTop - 125 / 10 * company.length) metaFoot - 4
  let under := y - 22
  let blocks := (margin, job.sheet.left) ::
    (job.sheet.right.map fun block => (pageWidth / 2 + 10, block)).toList
  let lowest := (blocks.map fun block => addressFoot under block.2).foldl min under
  { writer.draw .header
      (mark :: companyOps ++
        .textRight rightEdge (pageTop - 18) .bold 24 navy job.sheet.title.toList ::
        (stacked metaTop 13 job.sheet.metaLines).flatMap (fun (height, entry) =>
          metaOps height entry) ++
        .line margin y rightEdge y (15 / 10) navy ::
        blocks.flatMap fun block => addressOps block.1 under block.2) with
    y := lowest - 14 }

/-- The header on every page after the first. -/
def shortHeader (writer : Writer) : Writer :=
  let y := pageTop - 38
  { writer.draw .header
      ([.textAt margin (pageTop - 12) .bold 12 navy job.identity.name.toList,
        .textRight rightEdge (pageTop - 12) .bold 14 navy job.sheet.title.toList] ++
      (job.sheet.metaLines.head?.map fun entry =>
        .textRight rightEdge (pageTop - 28) .regular 9 .black
          (entry.1 ++ ": " ++ entry.2 ++ " (continued)").toList).toList ++
      [.line margin y rightEdge y 1 navy]) with
    y := y - 24 }

def newPage (writer : Writer) : Writer :=
  shortHeader job ⟨writer.pages ++ [writer.page], freshPage job, writer.y⟩

/-! ### The table -/

/-- The left and the right edge of every column. -/
def columnEdges (columns : List Column) : List (ℚ × ℚ) :=
  let flex := contentWidth - (columns.map Column.width).sum
  let widths := columns.map fun column => if column.width = 0 then flex else column.width
  (widths.zip (widths.scanl (· + ·) margin)).map fun (w, x) => (x, x + w)

/-- A text in a column, at its side. -/
def cellOp (align : Align) (edges : ℚ × ℚ) (y : ℚ) (font : Font) (size : ℚ) (color : Color ℚ)
    (text : List Char) : Op ℚ :=
  match align with
  | .left => .textAt (edges.1 + pad) y font size color text
  | .right => .textRight (edges.2 - pad) y font size color text

def tableHeader (writer : Writer) : Writer :=
  let y := writer.y
  { writer.draw .columns
      ([.line margin (y + 13) rightEdge (y + 13) (12 / 10) navy,
        .line margin (y - 6) rightEdge (y - 6) (12 / 10) navy] ++
      (job.sheet.columns.zip (columnEdges job.sheet.columns)).map fun (column, edges) =>
        cellOp column.align edges y .bold (85 / 10) navy column.label.toList) with
    y := y - 20 }

/-- The lines of a row: those of every cell, of the detail, and the column of the detail. -/
structure RowLines where
  cells : List (List (List Char))
  flex : ℕ
  details : List (List Char)

def wrappedCells (columns : List Column) (row : Row) : List (List (List Char)) :=
  (row.cells.zip (columnEdges columns)).map fun (cell, x0, x1) =>
    wrap .regular body cell.toList (x1 - x0 - 2 * pad)

def flexColumn (columns : List Column) : ℕ :=
  (columns.findIdx? fun column => column.width = 0).getD 0

/-- The lines of the detail of a row; without a column to hold them there is no layout. -/
def detailLines (columns : List Column) (row : Row) : Option (List (List Char)) :=
  match row.detail with
  | none => some []
  | some detail =>
    (columnEdges columns)[flexColumn columns]?.map fun (x0, x1) =>
      wrap .oblique 8 detail.toList (x1 - x0 - 2 * pad)

def rowLines (columns : List Column) (row : Row) : Option RowLines := do
  let details ← detailLines columns row
  return ⟨wrappedCells columns row, flexColumn columns, details⟩

namespace RowLines

def flexLines (lines : RowLines) : ℕ :=
  (lines.cells[lines.flex]?.map List.length).getD 1

def count (lines : RowLines) : ℕ :=
  max ((lines.cells.map List.length).foldl max 1) (lines.flexLines + lines.details.length)

def depth (lines : RowLines) : ℚ :=
  ((lines.count - 1 : ℕ) : ℚ) * leading + 6

def inked (cell : List (List Char)) : List (List Char) :=
  cell.filter fun piece => piece ≠ []

def ops (columns : List Column) (lines : RowLines) (top : ℚ) : List (Op ℚ) :=
  ((lines.cells.zip columns).zip (columnEdges columns)).flatMap (fun ((cell, column), edges) =>
    (stacked top leading (inked cell)).map fun (height, piece) =>
      cellOp column.align edges height .regular body .black piece) ++
  (stacked (top - lines.flexLines * leading) leading lines.details).map fun (height, piece) =>
    .textAt (((columnEdges columns)[lines.flex]?.map Prod.fst).getD 0 + pad) height .oblique 8
      grey piece

end RowLines

def emptyTable (writer : Writer) : Writer :=
  match job.sheet.rows, job.sheet.emptyText with
  | [], some text =>
    { writer.draw .empty [.textAt (margin + pad) writer.y .oblique body grey text.toList] with
      y := writer.y - (leading + 8) }
  | _, _ => writer

def writeRow (writer : Writer) (row : Row) : Option Writer := do
  let columns := job.sheet.columns
  let lines ← rowLines columns row
  let writer :=
    if writer.y - lines.depth < bottom then tableHeader job (newPage job writer) else writer
  let foot := writer.y - lines.depth
  return { writer.draw .row
      (lines.ops columns writer.y ++ [.line margin foot rightEdge foot (5 / 10) rule]) with
    y := foot - leading - 1 }

def rows (writer : Writer) : Option Writer :=
  job.sheet.rows.foldlM (writeRow job) (emptyTable job writer)

/-! ### Totals, pay box and notes -/

def totalDepth (line : TotalLine) : ℚ :=
  if line.emphasis then 26 else 16

def totalOps (y : ℚ) (line : TotalLine) : List (Op ℚ) :=
  let labelEdge := rightEdge - 118
  if line.emphasis then
    [.line (rightEdge - 240) (y - 6 + 14) rightEdge (y - 6 + 14) 1 navy,
      .textRight labelEdge (y - 6) .bold 12 navy line.label.toList,
      .textRight (rightEdge - pad) (y - 6) .bold 12 navy line.value.toList]
  else
    [.textRight labelEdge y .regular body .black line.label.toList,
      .textRight (rightEdge - pad) y .regular body .black line.value.toList]

def writeTotal (writer : Writer) (line : TotalLine) : Writer :=
  { writer.draw .total (totalOps writer.y line) with y := writer.y - totalDepth line }

def totals (writer : Writer) : Writer :=
  let height := (job.sheet.totals.map totalDepth).sum + 10
  let writer := if writer.y - height < bottom then newPage job writer else writer
  let written := job.sheet.totals.foldl writeTotal { writer with y := writer.y - 6 }
  { written with y := written.y - 6 }

def payLines (pay : PayBox) : List (List Char) :=
  pay.lines.flatMap fun line => wrap .regular 9 line.toList 240

def payHeight (pay : PayBox) : ℚ :=
  24 + (payLines pay).length * 12 + 6

def drawPay (pay : PayBox) (writer : Writer) : Writer :=
  let width : ℚ := 260
  let height := payHeight pay
  let x := pageWidth - margin - width
  let top := writer.y
  let drawn := writer.draw .pay
    (.rectStroke x (top - height) width height 1 navy ::
      .textAt (x + 10) (top - 16) .bold 10 navy "PAY ONLINE".toList ::
      (stacked (top - 30) 12 (payLines pay)).map fun (y, line) =>
        .textAt (x + 10) y .regular 9 .black line)
  let links := (pay.uri.map fun uri =>
    ⟨x, top - height, x + width, top - height + height, uri⟩).toList
  { drawn with
    page := { drawn.page with links := drawn.page.links ++ links }
    y := top - height - 16 }

def payBox (writer : Writer) : Writer :=
  match job.sheet.pay with
  | none => writer
  | some pay =>
    drawPay pay (if writer.y - payHeight pay < bottom then newPage job writer else writer)

def notePieces (notes : List String) : List (List Char) :=
  notes.flatMap fun note => wrap .regular 9 note.toList (contentWidth - 8)

def writeNote (writer : Writer) (piece : List Char) : Writer :=
  let writer := if writer.y < bottom then newPage job writer else writer
  { writer.draw .note [.textAt (margin + 8) writer.y .regular 9 .black piece] with
    y := writer.y - 13 }

def drawNotes (writer : Writer) : Writer :=
  (notePieces job.sheet.notes).foldl (writeNote job)
    { writer.draw .note [.textAt margin writer.y .bold 9 navy "NOTES".toList] with
      y := writer.y - 14 }

def notes (writer : Writer) : Writer :=
  if job.sheet.notes = [] then writer
  else drawNotes job (if writer.y - 30 < bottom then newPage job writer else writer)

/-! ### The document -/

def footerOps (count index : ℕ) : List (Op ℚ) :=
  let y := margin - 14
  (job.identity.footer.map fun text =>
    .textCenter (pageWidth / 2) y .oblique 8 grey text.toList).toList ++
  [.textRight rightEdge y .regular 8 grey
    ("Page " ++ toString (index + 1) ++ " of " ++ toString count).toList]

def footers (pages : List DrawnPage) : List DrawnPage :=
  pages.zipIdx.map fun (page, index) =>
    { page with ops := page.ops ++ (footerOps job pages.length index).map fun op => (.footer, op) }

/-- The pages of a sheet with the part that every operation prints. -/
def layoutPages : Option (List DrawnPage) := do
  let first : Writer := ⟨[], freshPage job, 0⟩
  let table ← rows job (tableHeader job (fullHeader job first))
  let last := notes job (payBox job (totals job table))
  return footers job (last.pages ++ [last.page])

end Layout

end Pdf

end QuickBooks
