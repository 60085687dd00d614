import QuickBooks.BuildVariances
import QuickBooks.MirroredPayloads
import QuickBooks.RoundedDecimals
import QuickBooks.WrittenTables

/-!
# Imports from spreadsheets

Materials, build sheets and counts are loaded from a spreadsheet's text.  The columns are
found by their headings, every row is checked, and a file with a bad row gives the errors
of its rows and no records.
-/

namespace QuickBooks

open DecimalNumbers ExceptPrograms Mfg

namespace MfgImport

/-- What the import uses of texts: which characters are letters or digits, the lower case of
a text, a text in quotes, and how a decimal and dates of two forms are read. -/
structure ImportTexts where
  isAlphanumeric : Char → Bool
  toLowercase : String → String
  quoted : String → String
  decimalFromStr : String → Option Decimal
  dateFromYmd : String → Option Date
  dateFromMdy : String → Option Date

/-- A row's number, counted from one with the header, and what is wrong with it. -/
structure RowError where
  line : ℕ
  message : String
deriving DecidableEq

def isBlank (field : String) : Bool :=
  trimmed field = ""

def parseCsv (text : String) : List (List String) :=
  WrittenTables.parseCsv isBlank text

section Cells

variable (texts : ImportTexts)

def normalize (text : String) : String :=
  texts.toLowercase (String.ofList (text.toList.filter texts.isAlphanumeric))

def accepts (names : List String) (heading : String) : Bool :=
  names.any fun name => (normalize texts name).toList <+: (normalize texts heading).toList

def findColumn (head : List String) (names : List String) : Option ℕ :=
  head.findIdx? fun heading => accepts texts names heading

def cell (row : List String) (index : Option ℕ) : String :=
  ((index.bind fun place => row[place]?).map trimmed).getD ""

def decimal (raw what : String) : Except CostError Decimal :=
  orRefuse (.invalid (what ++ " " ++ texts.quoted raw ++ " is not a number"))
    (texts.decimalFromStr (String.ofList ((trimmed raw).toList.filter fun char => char ≠ ',')))

def withoutSigns (text : String) : String :=
  let front := text.toList.dropWhile fun char => char = '$'
  String.ofList ((front.reverse.dropWhile fun char => char = '%').reverse)

def costMessage : CostError → String
  | .invalid message => message
  | .overflow => "arithmetic overflow"

def number (raw what : String) : Except String Decimal :=
  (decimal texts (withoutSigns (trimmed raw)) what).mapError costMessage

/-- Board-feet in one piece: thickness, width and length in inches, over 144. -/
def boardFeet (thickness width length : Decimal) : Except CostError Decimal := do
  ensure (0 < thickness.mantissa ∧ 0 < width.mantissa ∧ 0 < length.mantissa)
    (.invalid "every dimension must be more than zero")
  let area ← orRefuse .overflow (thickness.mul? width)
  let volume ← orRefuse .overflow (area.mul? length)
  -- A quotient by 144 always fits.
  orRefuse .overflow (volume.div? (.ofParts 144 0))

end Cells

/-! ### The loop over the rows -/

/-- What an import makes of a table: the names of its columns and those it needs, what it
reads of a row's cells, whether that repeats what is there, and how it is added. -/
structure Importer (φ α β : Type) where
  names : φ → List String
  required : List (φ × String)
  parse : ℕ → (φ → String) → Except String β
  repeats : List α → β → Bool
  repeatedMessage : β → String
  add : List α → β → List α

section Loop

variable {φ α β : Type} (texts : ImportTexts) (importer : Importer φ α β)

/-- One row: a record more, or an error of the row. -/
def importStep (state : List α × List RowError) (row : (φ → String) × ℕ) :
    List α × List RowError :=
  let line := row.2 + 2
  match importer.parse line row.1 with
  | .ok parsed =>
    if importer.repeats state.1 parsed then
      (state.1, state.2 ++ [⟨line, importer.repeatedMessage parsed⟩])
    else (importer.add state.1 parsed, state.2)
  | .error message => (state.1, state.2 ++ [⟨line, message⟩])

def importRows (rows : List (φ → String)) : Except (List RowError) (List α) :=
  let state := rows.zipIdx.foldl (importStep importer) ([], [])
  if state.2 = [] then .ok state.1 else .error state.2

/-- The columns an import needs are there; the first that is not is an error. -/
def checkColumns (head : List String) : Except (List RowError) Unit :=
  importer.required.forM fun column =>
    ensure (findColumn texts head (importer.names column.1)).isSome
      [⟨1, "no " ++ column.2 ++ " column in the header"⟩]

def runImport (text : String) : Except (List RowError) (List α) :=
  match parseCsv text with
  | [] => .error [⟨1, "the file is empty"⟩]
  | head :: body => do
    checkColumns texts importer head
    importRows importer (body.map fun row field =>
      cell row (findColumn texts head (importer.names field)))

end Loop

variable (texts : ImportTexts)

/-! ### Materials -/

structure MaterialImport where
  name : String
  thicknessIn : Decimal
  widthIn : Decimal
  lengthIn : Decimal
  color : Option String
  reorderBf : Option Decimal
deriving DecidableEq

inductive MaterialField where
  | name
  | thickness
  | width
  | length
  | color
  | reorder
deriving DecidableEq

def MaterialField.names : MaterialField → List String
  | name => ["name", "material"]
  | thickness => ["thickness", "thick"]
  | width => ["width"]
  | length => ["length"]
  | color => ["color", "colour"]
  | reorder => ["reorder"]

def parseMaterial (cells : MaterialField → String) : Except String MaterialImport := do
  ensure (cells .name ≠ "") "no name"
  let thickness ← number texts (cells .thickness) "thickness"
  let width ← number texts (cells .width) "width"
  let length ← number texts (cells .length) "length"
  let reorder ←
    if cells .reorder = "" then pure none
    else some <$> number texts (cells .reorder) "reorder point"
  let _ ← (boardFeet thickness width length).mapError costMessage
  return {
    name := cells .name
    thicknessIn := thickness
    widthIn := width
    lengthIn := length
    color := (some (cells .color)).filter fun color => color ≠ ""
    reorderBf := reorder }

def materialImporter : Importer MaterialField MaterialImport MaterialImport where
  names := MaterialField.names
  required := [(.name, "name"), (.thickness, "thickness"), (.width, "width"), (.length, "length")]
  parse _ := parseMaterial texts
  repeats out material := out.any fun other => Project.eqIgnoreAsciiCase other.name material.name
  repeatedMessage material := material.name ++ " appears twice"
  add out material := out ++ [material]

def materials (text : String) : Except (List RowError) (List MaterialImport) :=
  runImport texts (materialImporter texts) text

/-! ### Build sheets -/

structure SheetLineImport where
  line : ℕ
  kind : String
  what : String
  amount : Decimal
  rate : Decimal
deriving DecidableEq

/-- One product's sheet, before names are resolved to ids. -/
structure SheetImport where
  product : String
  lines : List SheetLineImport
deriving DecidableEq

inductive SheetField where
  | product
  | kind
  | what
  | amount
  | rate
deriving DecidableEq

def SheetField.names : SheetField → List String
  | product => ["product", "sku", "item"]
  | kind => ["kind", "type"]
  | what => ["what", "component", "name"]
  | amount => ["amount", "qty", "quantity"]
  | rate => ["rate", "yield", "cost"]

def sheetKind (kind : String) : Except String String :=
  if kind ∈ ["material", "foam", "sheet"] then return "material"
  else if kind ∈ ["part", "hardware", "bought"] then return "part"
  else if kind ∈ ["labour", "labor", "time"] then return "labour"
  else throw ("kind " ++ texts.quoted kind ++ " is not material, part or labour")

def parseSheetLine (line : ℕ) (cells : SheetField → String) :
    Except String (String × SheetLineImport) := do
  ensure (cells .product ≠ "") "no product"
  let kind ← sheetKind texts (texts.toLowercase (cells .kind))
  ensure (cells .what ≠ "") "no component named"
  let amount ← number texts (cells .amount) "amount"
  let rate ← number texts (cells .rate) "rate"
  return (cells .product, ⟨line, kind, cells .what, amount, rate⟩)

/-- A line is added to the first sheet of its product, or begins one. -/
def addSheetLine : List SheetImport → String × SheetLineImport → List SheetImport
  | [], parsed => [⟨parsed.1, [parsed.2]⟩]
  | sheet :: sheets, parsed =>
    if Project.eqIgnoreAsciiCase sheet.product parsed.1 then
      { sheet with lines := sheet.lines ++ [parsed.2] } :: sheets
    else sheet :: addSheetLine sheets parsed

def sheetImporter : Importer SheetField SheetImport (String × SheetLineImport) where
  names := SheetField.names
  required := [(.product, "product"), (.kind, "kind"), (.what, "what"), (.amount, "amount"),
    (.rate, "rate")]
  parse := parseSheetLine texts
  repeats _ _ := false
  repeatedMessage _ := ""
  add := addSheetLine

def buildSheets (text : String) : Except (List RowError) (List SheetImport) :=
  runImport texts (sheetImporter texts) text

/-! ### Counts -/

structure CountImport where
  line : ℕ
  what : String
  date : String
  amount : Decimal
  unit : String
deriving DecidableEq

inductive CountField where
  | what
  | date
  | amount
  | unit
deriving DecidableEq

def CountField.names : CountField → List String
  | what => ["what", "material", "product", "sku", "name"]
  | date => ["date", "counted"]
  | amount => ["amount", "count", "qty", "quantity", "sheets"]
  | unit => ["unit"]

def countUnit (unit : String) : Except String String :=
  if unit = "" then return "default"
  else if unit ∈ ["sheet", "sheets", "sh"] then return "sheets"
  else if unit ∈ ["bf", "board-feet", "boardfeet", "board feet"] then return "bf"
  else if unit ∈ ["unit", "units", "each", "ea", "pcs"] then return "units"
  else throw ("unit " ++ texts.quoted unit ++ " is not sheets, bf or units")

def parseCount (line : ℕ) (cells : CountField → String) : Except String CountImport := do
  ensure (cells .what ≠ "") "nothing named"
  let date ← orRefuse
    ("date " ++ texts.quoted (cells .date) ++ " is not YYYY-MM-DD or MM/DD/YYYY")
    (texts.dateFromYmd (cells .date) <|> texts.dateFromMdy (cells .date))
  let amount ← number texts (cells .amount) "count"
  ensure (0 ≤ amount.mantissa) "a count cannot be negative"
  let unit ← countUnit texts (texts.toLowercase (cells .unit))
  return ⟨line, cells .what, date.render, amount, unit⟩

def countImporter : Importer CountField CountImport CountImport where
  names := CountField.names
  required := [(.what, "what"), (.date, "date"), (.amount, "amount")]
  parse := parseCount texts
  repeats _ _ := false
  repeatedMessage _ := ""
  add out count := out ++ [count]

def counts (text : String) : Except (List RowError) (List CountImport) :=
  runImport texts (countImporter texts) text

end MfgImport

end QuickBooks
