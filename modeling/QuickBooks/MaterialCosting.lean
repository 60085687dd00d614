import QuickBooks.LedgerOperations
import QuickBooks.StaleWrites

/-!
# Material costing on the shop floor

A receipt brings material in at its landed cost, freight shared by board foot,
and a build takes material out at its moving average.  Each keeps the exact
running value of every material next to a posting to the raw material account.
The positions are written line by line from the materials as they were read
before the first line, a receipt's before its document is posted and a build's
after; nothing undoes what was written when a later statement is refused.
-/

namespace QuickBooks

open DecimalNumbers ExceptPrograms StaleWrites TransactionPrograms

namespace ShopFloor

/-- Addition and division of decimals, nothing where they panic, and a decimal
as it is read back from its text. -/
structure DecimalArithmetic where
  add : Decimal → Decimal → Option Decimal
  div : Decimal → Decimal → Option Decimal
  reread : Decimal → Decimal

inductive MaterialUnit where
  | bf
  | sheet
  | ea
  | lf
deriving DecidableEq

inductive SheetLineUnit where
  | bf
  | ea
deriving DecidableEq

/-- A material with its moving average, what is on hand and the exact value of
it. -/
structure Material where
  materialId : String
  unit : MaterialUnit
  sheetBoardFeet : Option Decimal
  avgCost : Money
  qtyOnHand : Decimal
  totalValue : Money
deriving DecidableEq

structure BuildSheetLine where
  lineNo : Int
  materialId : Option String
  partItemId : Option String
  qtyPerUnit : Decimal
  unit : SheetLineUnit
deriving DecidableEq

def BuildSheetLine.componentId (line : BuildSheetLine) : Option String :=
  line.materialId <|> line.partItemId

structure BuildSheet where
  sheetId : String
  yieldPct : Decimal
  labourMinutes : Decimal
  labourRate : Money
  overhead : Money
  lines : List BuildSheetLine
deriving DecidableEq

inductive MfgError where
  | ledger (failure : LedgerError)
  | money (failure : MoneyError)
  | post (failure : PostError)
  | unknownMaterial (materialId : String)
  | unknownSheet (sheetId : String)
  | emptySheet (sheetId : String)
  | emptyReceipt
  | lineNamesNothing (sheetId : String) (lineNo : Int)
  | consumptionNotOnSheet (materialId : String)
  | missingBoardFeet (materialId : String)
  | panicked (text : String)
deriving DecidableEq

namespace MfgError

def ofLedger : LedgerError → MfgError
  | .post failure => .post failure
  | failure => .ledger failure

end MfgError

abbrev Costing :=
  Except MfgError

def orPanic {α : Type} : Option α → Costing α :=
  orRefuse (.panicked "decimal arithmetic overflowed")

def money {α : Type} (outcome : Except MoneyError α) : Costing α :=
  outcome.mapError MfgError.money

def mul (first second : Decimal) : Costing Decimal :=
  orPanic (first.mul? second)

def ofInt (number : Int) : Costing Decimal :=
  if fits : number.natAbs < 2 ^ 96 then return ⟨number, 0, fits, by decide⟩
  else throw (.panicked "decimal arithmetic overflowed")

def inSixtyFour (number : Int) : Costing Int :=
  if -9223372036854775808 ≤ number ∧ number ≤ 9223372036854775807 then return number
  else throw (.panicked "integer arithmetic overflowed")

def neg (number : Decimal) : Decimal :=
  number.negated

def isLess (first second : Decimal) : Bool :=
  first.mantissa * 10 ^ second.scale < second.mantissa * 10 ^ first.scale

/-! ### Freight -/

/-- A line of a freight allocation. -/
structure ReceiptLine where
  materialId : String
  qty : Decimal
  unit : MaterialUnit
  sheetBoardFeet : Option Decimal

/-- A quantity in the unit that the average is expressed in: a sheet counts as
its board feet. -/
def trackedQty (material : Material) (qty : Decimal) : Costing Decimal :=
  match material.unit with
  | .bf | .ea | .lf => return qty
  | .sheet => do
    let boardFeet ← orRefuse (.missingBoardFeet material.materialId) material.sheetBoardFeet
    mul qty boardFeet

def boardFootWeight (line : ReceiptLine) : Costing Decimal :=
  match line.unit with
  | .bf => return line.qty
  | .sheet => do
    let boardFeet ← orRefuse (.missingBoardFeet line.materialId) line.sheetBoardFeet
    mul line.qty boardFeet
  | .ea | .lf => return Decimal.zero

/-- Hand the leftover cents out one each, round and round in the given order. -/
def dealCents (order : List ℕ) : ℕ → ℕ → List Int → List Int
  | 0, _, floors => floors
  | leftover + 1, cursor, floors =>
    match order[cursor % order.length]? with
    | none => floors
    | some i => dealCents order leftover (cursor + 1) (floors.modify i (· + 1))

section Priced

variable (arith : DecimalArithmetic)

def add (first second : Decimal) : Costing Decimal :=
  orPanic (arith.add first second)

def sub (first second : Decimal) : Costing Decimal :=
  add arith first (neg second)

def div (first second : Decimal) : Costing Decimal :=
  orPanic (arith.div first second)

def sumDecimals (numbers : List Decimal) : Costing Decimal :=
  numbers.foldlM (add arith) Decimal.zero

/-- A share of the freight: whole cents and the part of a cent left over. -/
def freightShare (freight : Money) (totalWeight weight : Decimal) :
    Costing (Int × Decimal) := do
  let minor ← ofInt freight.minor
  let scaled ← mul minor weight
  let share ← div arith scaled totalWeight
  let floor := share.trunc
  let whole ← ofInt floor
  let remainder ← sub arith share whole
  let floorMinor :=
    if -9223372036854775808 ≤ floor ∧ floor ≤ 9223372036854775807 then floor else 0
  return (floorMinor, remainder)

/-- Freight by board foot, or by count when no line has board feet, or evenly
when no line has any weight.  Every share is cut to the cent, and the cents
left over go to the largest remainders first. -/
def allocateFreight (lines : List ReceiptLine) (freight : Money) : Costing (List Money) :=
  if lines.isEmpty then return []
  else if freight.isZero then return lines.map fun _ => Money.zero
  else do
    let boardFeet ← lines.mapM boardFootWeight
    let weights :=
      if boardFeet.any fun weight => 0 < weight.mantissa then boardFeet
      else lines.map ReceiptLine.qty
    let weightSum ← sumDecimals arith weights
    let one : Decimal := .ofParts 1 0
    let weights := if 0 < weightSum.mantissa then weights else lines.map fun _ => one
    let totalWeight ← sumDecimals arith weights
    let shares ← weights.mapM (freightShare arith freight totalWeight)
    let allocated ← shares.foldlM (fun sum share => inSixtyFour (sum + share.1)) 0
    let leftover ← inSixtyFour (freight.minor - allocated)
    let order := (shares.zipIdx.insertionSort fun first second =>
      isLess second.1.2 first.1.2 ∨
        (!isLess first.1.2 second.1.2 ∧ first.2 ≤ second.2)).map Prod.snd
    let floors := dealCents order leftover.toNat 0 (shares.map Prod.fst)
    floors.mapM fun minor =>
      orRefuse (.panicked "integer arithmetic overflowed") (Money.ofMinor? minor)

/-! ### Positions -/

/-- What a receipt or a build writes back to a material. -/
structure MaterialPosition where
  materialId : String
  avgCost : Money
  qtyOnHand : Decimal
  totalValue : Money
deriving DecidableEq

/-- The average of a running value, zero when nothing is on hand. -/
def averageCost (value : Money) (qty : Decimal) : Costing Money :=
  if qty.mantissa = 0 then return Money.zero
  else do
    let average ← div arith value.toDecimal qty
    money (roundMoney average .lineExtension)

/-- A material after a quantity and a value came in, the value exactly. -/
def positionAfter (material : Material) (qty : Decimal) (value : Money) :
    Costing MaterialPosition := do
  let newQty ← add arith material.qtyOnHand qty
  let newValue ← money (material.totalValue.checkedAdd value)
  let newAvg ← averageCost arith newValue newQty
  return ⟨material.materialId, newAvg, newQty, newValue⟩

/-- A material after a quantity and its cost went out. -/
def positionWithout (material : Material) (qty : Decimal) (cost : Money) :
    Costing MaterialPosition := do
  let newQty ← sub arith material.qtyOnHand qty
  let newValue ← money (material.totalValue.checkedSub cost)
  let newAvg ← averageCost arith newValue newQty
  return ⟨material.materialId, newAvg, newQty, newValue⟩

end Priced

/-- A book with the materials and the build sheets of its shop. -/
structure Shop where
  ledger : Ledger
  materials : List Material
  sheets : List BuildSheet
  distinct : (materials.map Material.materialId).Nodup
deriving DecidableEq

/-- The row of a material that holds a position, the quantity as text. -/
def MaterialPosition.put (arith : DecimalArithmetic) (position : MaterialPosition)
    (material : Material) : Material :=
  { material with
    avgCost := position.avgCost
    qtyOnHand := arith.reread position.qtyOnHand
    totalValue := position.totalValue }

@[simp]
theorem MaterialPosition.materialId_put (arith : DecimalArithmetic)
    (position : MaterialPosition) (material : Material) :
    (position.put arith material).materialId = material.materialId :=
  rfl

namespace Shop

def setLedger (ledger : Ledger) (shop : Shop) : Shop :=
  { shop with ledger }

def material (shop : Shop) (materialId : String) : Costing Material :=
  orRefuse (.unknownMaterial materialId)
    (shop.materials.find? fun row => row.materialId = materialId)

def buildSheet (shop : Shop) (sheetId : String) : Costing BuildSheet :=
  orRefuse (.unknownSheet sheetId) (shop.sheets.find? fun sheet => sheet.sheetId = sheetId)

/-- Write a position back to the material's row. -/
def setMaterialPosition (arith : DecimalArithmetic) (shop : Shop)
    (position : MaterialPosition) : Shop :=
  { shop with
    materials := writeRow Material.materialId MaterialPosition.materialId
      (MaterialPosition.put arith) position shop.materials
    distinct := by
      rw [map_key_writeRow (MaterialPosition.materialId_put arith)]
      exact shop.distinct }

end Shop

abbrev ShopProgram :=
  Program Shop MfgError

def onLedger {α : Type} (program : LedgerProgram α) : ShopProgram α :=
  refusingWith MfgError.ofLedger (onPart Shop.ledger Shop.setLedger program)

def accountLine (lineNo : Int) (account : String) (amount : Money) : DocLine where
  lineNo := lineNo
  kind := .account
  amount := amount
  account := some ⟨account⟩

/-! ### Receipts -/

structure RawMaterialReceiptLine where
  materialId : String
  qty : Decimal
  baseCost : Money

structure RawMaterialReceipt where
  poRef : Option String
  receivedOn : Date
  lines : List RawMaterialReceiptLine
  freight : Money

/-- A line of a receipt with its material as it was read and its freight. -/
structure PricedLine where
  line : RawMaterialReceiptLine
  material : Material
  freightAlloc : Money

structure ReceivedLine where
  freightAlloc : Money
  landedCost : Money
  position : MaterialPosition
deriving DecidableEq

structure ReceiptResult where
  entryId : Nat
  totalLanded : Money
  lines : List ReceivedLine
deriving DecidableEq

def receiptDocument (documentId : String) (receipt : RawMaterialReceipt)
    (totalLanded : Money) : LedgerDocument where
  documentId := documentId
  kind := .rawMaterialReceipt
  txnDate := receipt.receivedOn
  lines := [accountLine 1 Chart.inventoryRaw totalLanded,
    accountLine 2 Chart.inventoryReceivedNotBilled totalLanded]
  memo := some ("raw material receipt" ++
    (receipt.poRef.elim "" fun po => ", " ++ po))

section Receiving

variable (arith : DecimalArithmetic)

/-- The lines of a receipt with what they are priced from, all read before
anything is written. -/
def Shop.priceReceipt (shop : Shop) (receipt : RawMaterialReceipt) :
    Costing (List PricedLine) := do
  ensure (!receipt.lines.isEmpty) .emptyReceipt
  let materials ← receipt.lines.mapM fun line => shop.material line.materialId
  let allocation ← allocateFreight arith
    (List.zipWith (fun line material =>
      ⟨line.materialId, line.qty, material.unit, material.sheetBoardFeet⟩)
      receipt.lines materials) receipt.freight
  return List.zipWith (fun (line, material) freightAlloc => ⟨line, material, freightAlloc⟩)
    (receipt.lines.zip materials) allocation

/-- What one line lands at, and the running total. -/
def landLine (priced : PricedLine) (total : Money) : Costing (ReceivedLine × Money) := do
  let landedCost ← money (priced.line.baseCost.checkedAdd priced.freightAlloc)
  let total ← money (total.checkedAdd landedCost)
  let qty ← trackedQty priced.material priced.line.qty
  let position ← positionAfter arith priced.material qty landedCost
  return (⟨priced.freightAlloc, landedCost, position⟩, total)

/-- Write the lines one by one; a line that fails leaves the earlier ones
written. -/
def receiveLines : List PricedLine → Money → ShopProgram (List ReceivedLine × Money)
  | [], total => return ([], total)
  | priced :: rest, total => do
    let (received, total) ← MonadExcept.ofExcept (landLine arith priced total)
    modify fun shop => shop.setMaterialPosition arith received.position
    let (others, total) ← receiveLines rest total
    return (received :: others, total)

/-- Bring material in: write the positions, then save and post the receipt. -/
def receiveMaterials (documentId : String) (receipt : RawMaterialReceipt) :
    ShopProgram ReceiptResult := do
  let shop ← get
  let priced ← MonadExcept.ofExcept (shop.priceReceipt arith receipt)
  let (lines, totalLanded) ← receiveLines arith priced Money.zero
  let entryId ← onLedger
    (QuickBooks.receiveMaterials (receiptDocument documentId receipt totalLanded))
  return ⟨entryId, totalLanded, lines⟩

end Receiving

/-! ### Builds -/

structure NewBuild where
  sheetId : String
  qtyBuilt : Decimal
  consumptions : List (String × Decimal)
  labourMinutesActual : Decimal
  completedOn : Date
  «class» : ClassId
  note : Option String

structure StandardCost where
  material : Money
  labour : Money
  overhead : Money
  total : Money
  materialGrossBf : Decimal

/-- A consumption with its material as it was read and its cost. -/
structure Consumption where
  material : Material
  qtyActual : Decimal
  cost : Money

/-- What a build is priced at before anything is written. -/
structure PricedBuild where
  finished : Money
  actualMaterial : Money
  applied : Money
  variance : Money
  actualLabour : Money
  consumptions : List Consumption

structure BuildResult where
  entryId : Nat
  standardCost : Money
  actualMaterial : Money
  applied : Money
  variance : Money
  actualLabour : Money
deriving DecidableEq

def buildDocument (documentId : String) (build : NewBuild) (priced : PricedBuild) :
    LedgerDocument where
  documentId := documentId
  kind := .build
  txnDate := build.completedOn
  headerClass := some build.class
  lines := [accountLine 1 Chart.inventoryFinished priced.finished,
    accountLine 2 Chart.inventoryRaw priced.actualMaterial,
    accountLine 3 Chart.partsLabourApplied priced.applied]
  memo := build.note <|> some ("build against " ++ build.sheetId)

/-- The materials that a sheet names, each read once. -/
def Shop.components (shop : Shop) (sheet : BuildSheet) : Costing (List Material) :=
  sheet.lines.foldlM (fun materials line =>
    match line.componentId with
    | none => return materials
    | some materialId =>
      if materials.any fun row => row.materialId = materialId then return materials
      else do
        let material ← shop.material materialId
        return materials ++ [material]) []

section Building

variable (arith : DecimalArithmetic)

/-- The dollars that one line of a sheet adds to the material and to the parts,
and its board feet before waste: the yield divides. -/
def addSheetLine (sheet : BuildSheet) (materials : List Material)
    (sums : Decimal × Decimal × Decimal) (line : BuildSheetLine) :
    Costing (Decimal × Decimal × Decimal) := do
  let (materialDollars, partsDollars, grossBf) := sums
  let componentId ← orRefuse (.lineNamesNothing sheet.sheetId line.lineNo) line.componentId
  let material ← orRefuse (.unknownMaterial componentId)
    (materials.find? fun row => row.materialId = componentId)
  let unitCost := material.avgCost.toDecimal
  match line.unit with
  | .bf => do
    let gross ← div arith line.qtyPerUnit sheet.yieldPct
    let grossBf ← add arith grossBf gross
    let dollars ← mul gross unitCost
    let materialDollars ← add arith materialDollars dollars
    return (materialDollars, partsDollars, grossBf)
  | .ea => do
    let dollars ← mul line.qtyPerUnit unitCost
    let partsDollars ← add arith partsDollars dollars
    return (materialDollars, partsDollars, grossBf)

/-- The cost of labour for some minutes. -/
def labourCost (minutes : Decimal) (rate : Money) : Costing Money := do
  let sixty : Decimal := .ofParts 60 0
  let hours ← div arith minutes sixty
  let dollars ← mul hours rate.toDecimal
  money (roundMoney dollars .lineExtension)

/-- The cost of one unit at the current averages, each bucket rounded once. -/
def standardCost (sheet : BuildSheet) (materials : List Material) :
    Costing StandardCost := do
  ensure (!sheet.lines.isEmpty) (.emptySheet sheet.sheetId)
  let (materialDollars, partsDollars, grossBf) ←
    sheet.lines.foldlM (addSheetLine arith sheet materials)
      (Decimal.zero, Decimal.zero, Decimal.zero)
  let material ← money (roundMoney materialDollars .lineExtension)
  let labour ← labourCost arith sheet.labourMinutes sheet.labourRate
  let parts ← money (roundMoney partsDollars .lineExtension)
  let withLabour ← money (material.checkedAdd labour)
  let withOverhead ← money (withLabour.checkedAdd sheet.overhead)
  let total ← money (withOverhead.checkedAdd parts)
  return ⟨material, labour, sheet.overhead, total, grossBf⟩

def extend (qty : Decimal) (amount : Money) : Costing Money := do
  let dollars ← mul qty amount.toDecimal
  money (roundMoney dollars .lineExtension)

/-- The consumptions at the average of their materials, and their total. -/
def priceConsumptions (materials : List Material) :
    List (String × Decimal) → Money → Costing (List Consumption × Money)
  | [], total => return ([], total)
  | (materialId, qtyActual) :: rest, total => do
    let material ← orRefuse (.panicked "no entry found for key")
      (materials.find? fun row => row.materialId = materialId)
    let cost ← extend qtyActual material.avgCost
    let total ← money (total.checkedAdd cost)
    let (others, total) ← priceConsumptions materials rest total
    return (⟨material, qtyActual, cost⟩ :: others, total)

/-- Price a build from the shop as it stands. -/
def Shop.priceBuild (shop : Shop) (build : NewBuild) : Costing PricedBuild := do
  let sheet ← shop.buildSheet build.sheetId
  let materials ← shop.components sheet
  build.consumptions.forM fun (materialId, _) =>
    ensure (materials.any fun row => row.materialId = materialId)
      (.consumptionNotOnSheet materialId)
  let standard ← standardCost arith sheet materials
  let finished ← extend build.qtyBuilt standard.total
  let materialExtended ← extend build.qtyBuilt standard.material
  let applied ← money (finished.checkedSub materialExtended)
  let (consumptions, actualMaterial) ←
    priceConsumptions materials build.consumptions Money.zero
  let remainder ← money (finished.checkedSub actualMaterial)
  let variance ← money (remainder.checkedSub applied)
  let actualLabour ← labourCost arith build.labourMinutesActual sheet.labourRate
  return ⟨finished, actualMaterial, applied, variance, actualLabour, consumptions⟩

/-- Take the consumed material off its positions one by one; one that fails
leaves the earlier ones written. -/
def relieveMaterials : List Consumption → ShopProgram Unit
  | [] => return ()
  | consumption :: rest => do
    let position ← MonadExcept.ofExcept
      (positionWithout arith consumption.material consumption.qtyActual consumption.cost)
    modify fun shop => shop.setMaterialPosition arith position
    relieveMaterials rest

/-- Finish a build: save and post it, then relieve the material. -/
def completeBuild (documentId : String) (build : NewBuild) : ShopProgram BuildResult := do
  let shop ← get
  let priced ← MonadExcept.ofExcept (shop.priceBuild arith build)
  let entryId ← onLedger
    (QuickBooks.completeBuild (buildDocument documentId build priced))
  relieveMaterials arith priced.consumptions
  return ⟨entryId, priced.finished, priced.actualMaterial, priced.applied, priced.variance,
    priced.actualLabour⟩

end Building

/-- The calls that move material. -/
inductive ShopCall where
  | receive (documentId : String) (receipt : RawMaterialReceipt)
  | build (documentId : String) (newBuild : NewBuild)

def refusal {α : Type} : Except MfgError α × Shop → Option MfgError × Shop
  | (.ok _, after) => (none, after)
  | (.error failure, after) => (some failure, after)

namespace ShopCall

variable (arith : DecimalArithmetic)

def result : ShopCall → Shop → Option MfgError × Shop
  | receive documentId receipt, shop =>
    refusal (execute (receiveMaterials arith documentId receipt) shop)
  | build documentId newBuild, shop =>
    refusal (execute (completeBuild arith documentId newBuild) shop)

def run (call : ShopCall) (shop : Shop) : Shop :=
  (call.result arith shop).2

end ShopCall

end ShopFloor

end QuickBooks
