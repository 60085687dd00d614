import QuickBooks.BooksCorrections
import QuickBooks.CsvTexts
import QuickBooks.MirroredPayloads

/-!
# The item and class worksheet

The worksheet lists items with a class column to fill in.  The reviewed sheet is read
back and written into the map from items to classes, all of it or nothing.
-/

namespace QuickBooks

open CsvTexts ExceptPrograms KeyedTables TransactionPrograms

namespace ItemClasses

/-- What the worksheet says of an item. -/
structure ItemFacts where
  qboId : String
  sku : Option String
  name : String
  itemType : String
  category : Option String
  incomeAccount : Option String

structure WorksheetRow where
  item : ItemFacts
  salesLines : Nat
  salesAmount : Money
  suggestedClass : Option String
  rule : Option String

def csvHeader : String :=
  "qbo_id,sku,name,type,category,income_account," ++
    "sales_lines_12m,sales_amount_12m,suggested_class,rule,class"

/-- A row of the worksheet with a text in the class column. -/
def rowText (row : WorksheetRow) (chosen : String) : String :=
  ",".intercalate [
    csvField row.item.qboId,
    csvField (row.item.sku.getD ""),
    csvField row.item.name,
    csvField row.item.itemType,
    csvField (row.item.category.getD ""),
    csvField (row.item.incomeAccount.getD ""),
    toString row.salesLines,
    row.salesAmount.display,
    csvField (row.suggestedClass.getD ""),
    csvField (row.rule.getD ""),
    chosen] ++ "\n"

def reviewedCsv (choices : List (WorksheetRow × String)) : String :=
  csvHeader ++ "\n" ++ String.join (choices.map fun choice => rowText choice.1 (csvField choice.2))

/-! ### Reading -/

/-- One data row of a reviewed worksheet, with the line it begins on. -/
structure ReviewedRow where
  line : Nat
  qboId : String
  classId : String
  name : Option String

inductive WorksheetError where
  | refused (problems : List String)
  | ledger (message : String)

def withoutMark (text : String) : String :=
  if text.toList.head? = some (Char.ofNat 0xFEFF) then String.ofList text.toList.tail else text

def column (header : List String) (name : String) : Option Nat :=
  header.findIdx? fun heading => Project.eqIgnoreAsciiCase (trimmed heading) name

def fieldAt (fields : List String) (col : Nat) : String :=
  (fields[col]?.map trimmed).getD ""

def isBlankRecord (record : Nat × List String) : Bool :=
  record.2.all fun field => trimmed field = ""

/-- One record as a row.  The class is lower-cased. -/
def reviewedRow (lowered : String → String) (idCol classCol : Nat) (nameCol : Option Nat)
    (record : Nat × List String) : ReviewedRow where
  line := record.1
  qboId := fieldAt record.2 idCol
  classId := lowered (fieldAt record.2 classCol)
  name := (nameCol.map (fieldAt record.2)).filter fun name => name ≠ ""

/-- The rows of a reviewed worksheet, its blank lines skipped. -/
def parseReviewed (lowered : String → String) (text : String) :
    Except WorksheetError (List ReviewedRow) :=
  match (splitCsv (withoutMark text)).filter fun record => !isBlankRecord record with
  | [] => .error (.refused ["the CSV is empty"])
  | (_, header) :: records =>
    match column header "qbo_id", column header "class" with
    | some idCol, some classCol =>
      .ok (records.map (reviewedRow lowered idCol classCol (column header "name")))
    | _, _ => .error (.refused ["the header must name a qbo_id column and a class column"])

/-! ### Applying -/

structure BookClass where
  companyId : String
  classId : String
  isActive : Bool

structure ItemClassRow where
  companyId : String
  itemRef : String
  classId : String
  appliedAt : String
  appliedBy : String
deriving DecidableEq

/-- The classes of a book and its map from items to classes. -/
structure ClassBook where
  classes : List BookClass
  itemClassMap : List ItemClassRow

def ItemClassRow.key (row : ItemClassRow) : String × String :=
  (row.companyId, row.itemRef)

namespace ClassBook

variable (book : ClassBook) (company : String)

def listClasses : List (String × Bool) :=
  (book.classes.filter fun entry => entry.companyId = company).map fun entry =>
    (entry.classId, entry.isActive)

def rowOf (itemRef : String) : Option ItemClassRow :=
  book.itemClassMap.find? fun row => row.key = (company, itemRef)

def classOf (itemRef : String) : Option String :=
  (book.rowOf company itemRef).map ItemClassRow.classId

def put (row : ItemClassRow) : ClassBook :=
  { book with itemClassMap := upsert ItemClassRow.key row book.itemClassMap }

end ClassBook

def importFallbackClass : String :=
  "unclassified"

/-- The problems of the rows so far, and the class wanted for each item with the line
that wants it. -/
structure Checked where
  problems : List String := []
  wanted : List (String × String × Nat) := []

def Checked.problem (checked : Checked) (text : String) : Checked :=
  { checked with problems := checked.problems ++ [text] }

variable (quoted : String → String)

/-- One row against the classes of the book and the rows before it. -/
def checkRow (classes : List (String × Bool)) (known : List String) (checked : Checked)
    (row : ReviewedRow) : Checked :=
  let who := match row.name with
    | some name => "line " ++ toString row.line ++ " (item " ++ row.qboId ++ " " ++ quoted name ++ ")"
    | none => "line " ++ toString row.line ++ " (item " ++ row.qboId ++ ")"
  if row.qboId = "" then checked.problem ("line " ++ toString row.line ++ ": no qbo_id")
  else if row.classId = "" then
    checked.problem
      (who ++ ": no class — fill it in or delete the row; apply never defaults one")
  else if row.classId = importFallbackClass then
    checked.problem (who ++ ": " ++ quoted row.classId ++
      " is the import-only fallback (D28), not a class an item can have")
  else match classes.lookup row.classId with
    | none => checked.problem (who ++ ": class " ++ quoted row.classId ++
        " is not in the book (one of: " ++ ", ".intercalate known ++ ")")
    | some false => checked.problem (who ++ ": class " ++ quoted row.classId ++ " is inactive")
    | some true =>
      match checked.wanted.lookup row.qboId with
      | some (earlier, earlierLine) =>
        if earlier = row.classId then checked
        else checked.problem (who ++ ": class " ++ quoted row.classId ++ ", but line " ++
          toString earlierLine ++ " gives it " ++ quoted earlier)
      | none =>
        { checked with wanted := checked.wanted ++ [(row.qboId, row.classId, row.line)] }

structure ApplyReport where
  rows : Nat
  added : Nat := 0
  changed : Nat := 0
  unchanged : Nat := 0
  mapPerClass : List (String × Nat) := []

abbrev ClassProgram (α : Type) : Type :=
  Program ClassBook WorksheetError α

/-- Write a row of the map; its class must be one of the book. -/
def insertItemClass (row : ItemClassRow) : ClassProgram Unit := do
  let book ← get
  if book.classes.any fun entry =>
      entry.companyId = row.companyId && entry.classId = row.classId then
    modify fun book => book.put row
  else throw (.ledger "FOREIGN KEY constraint failed")

variable (company now actor : String)

/-- Write what is wanted for one item, unless the map has it already. -/
def applyOne (before : ClassBook) (report : ApplyReport) (entry : String × String × Nat) :
    ClassProgram ApplyReport :=
  let row : ItemClassRow := ⟨company, entry.1, entry.2.1, now, actor⟩
  match before.classOf company entry.1 with
  | some existing =>
    if existing = entry.2.1 then return { report with unchanged := report.unchanged + 1 }
    else do
      insertItemClass row
      return { report with changed := report.changed + 1 }
  | none => do
    insertItemClass row
    return { report with added := report.added + 1 }

/-- The number of items that the map of a company gives each class. -/
def mapPerClass (book : ClassBook) : List (String × Nat) :=
  let held := (book.itemClassMap.filter fun row => row.companyId = company).map
    ItemClassRow.classId
  (held.dedup.mergeSort fun first second => decide (first ≤ second)).map fun classId =>
    (classId, held.count classId)

/-- What rows want of the map, when none of them has a problem. -/
def wantedOf (classes : List (String × Bool)) (rows : List ReviewedRow) :
    Except WorksheetError (List (String × String × Nat)) := do
  ensure (!classes.isEmpty) (.refused ["company " ++ quoted company ++
    " has no classes in this book; run \x60ledger init\x60 first"])
  let known := ((classes.filter fun entry => entry.2 && entry.1 ≠ importFallbackClass).map
    Prod.fst).mergeSort fun first second => decide (first ≤ second)
  let checked := rows.foldl (checkRow quoted classes known) {}
  ensure checked.problems.isEmpty (.refused checked.problems)
  return checked.wanted.mergeSort fun first second => decide (first.1 ≤ second.1)

/-- Write rows into the map of a company, all or nothing. -/
def apply (rows : List ReviewedRow) : ClassProgram ApplyReport := do
  let before ← get
  let wanted ← MonadExcept.ofExcept (wantedOf quoted company (before.listClasses company) rows)
  let report ← atomically
    (wanted.foldlM (applyOne company now actor before) { rows := rows.length })
  let after ← get
  return { report with mapPerClass := mapPerClass company after }

def applyCsv (lowered : String → String) (text : String) : ClassProgram ApplyReport := do
  let rows ← MonadExcept.ofExcept (parseReviewed lowered text)
  apply quoted company now actor rows

end ItemClasses

end QuickBooks
