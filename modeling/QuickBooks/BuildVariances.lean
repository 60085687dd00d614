import Mathlib.Data.Rat.Floor
import QuickBooks.LedgerMoney

/-!
# Build sheets and what a run used

A build sheet lists materials, bought parts and labour.  A production run reports
the board feet it used of some materials.  What it takes off the shelf and what
its variance prices are found by two loops over the same components.  The
arithmetic is exact, and a figure is rounded where it is reported.
-/

namespace QuickBooks

open CheckedIntegers ExceptPrograms

namespace Mfg

inductive CostError where
  | invalid (message : String)
  | overflow
deriving DecidableEq

/-! ### Rounding -/

def nearest (scaled : ℚ) : ℤ :=
  if scaled < 0 then -⌊-scaled + 1 / 2⌋ else ⌊scaled + 1 / 2⌋

def rate (value : ℚ) : ℚ :=
  nearest (value * 10 ^ 4) / 10 ^ 4

def money (value : ℚ) : Except CostError Money :=
  orRefuse .overflow (Money.ofMinor? (nearest (value * 100)))

def toDecimal (amount : Money) : ℚ :=
  amount.minor / 100

/-! ### Build sheets -/

inductive Component where
  | material (materialId : String) (netBf yieldPct : ℚ)
  | part (name : String) (itemId : Option String) (qty unitCost : ℚ)
  | labour (name : String) (minutes ratePerHour : ℚ)
deriving DecidableEq

/-- What is known of a material: its landed cost for a board foot and its name. -/
structure MaterialPrices where
  perBf : String → Option ℚ
  name : String → String

structure CostLine where
  label : String
  grossBf : Option ℚ
  wasteBf : Option ℚ
  cost : ℚ
deriving DecidableEq

structure UnitCost where
  lines : List CostLine
  material : ℚ
  parts : ℚ
  labour : ℚ
  total : ℚ
  waste : ℚ
deriving DecidableEq

variable (rendered : ℚ → String)

def checkYield (yieldPct : ℚ) : Except CostError ℚ := do
  ensure (decide (0 < yieldPct ∧ yieldPct ≤ 100))
    (.invalid ("yield " ++ rendered yieldPct ++ "% must be more than 0 and at most 100"))
  return yieldPct / 100

/-- What one component costs for one unit, and the waste in it. -/
def componentCost (prices : MaterialPrices) (priceFactor yieldMovePts : ℚ) :
    Component → Except CostError (CostLine × ℚ × ℚ)
  | .material materialId netBf yieldPct => do
    ensure (decide (0 < netBf))
      (.invalid (prices.name materialId ++ ": net board-feet must be more than zero"))
    let price ← orRefuse
      (.invalid (prices.name materialId ++ " has no landed cost yet; record a receipt for it"))
      (prices.perBf materialId)
    let perBf := price * priceFactor
    let share ← checkYield rendered (yieldPct + yieldMovePts)
    let gross := netBf / share
    let cost := gross * perBf
    let wasteBf := gross - netBf
    return (⟨prices.name materialId, some (rate gross), some (rate wasteBf), rate cost⟩,
      cost, wasteBf * perBf)
  | .part name _ qty unitCost => do
    ensure (decide (0 < qty ∧ 0 ≤ unitCost))
      (.invalid (name ++ ": quantity must be more than zero and cost not negative"))
    return (⟨name, none, none, rate (qty * unitCost)⟩, qty * unitCost, 0)
  | .labour name minutes ratePerHour => do
    ensure (decide (0 ≤ minutes ∧ 0 ≤ ratePerHour))
      (.invalid (name ++ ": minutes and rate cannot be negative"))
    let cost := minutes / 60 * ratePerHour
    return (⟨name, none, none, rate cost⟩, cost, 0)

def Component.isMaterial : Component → Bool
  | .material .. => true
  | _ => false

def Component.isPart : Component → Bool
  | .part .. => true
  | _ => false

def Component.isLabour : Component → Bool
  | .labour .. => true
  | _ => false

/-- Unit cost of a build sheet with every material price moved by a percentage
and every yield moved by percentage points. -/
def unitCostWith (components : List Component) (prices : MaterialPrices)
    (priceMovePct yieldMovePts : ℚ) : Except CostError UnitCost := do
  ensure (!components.isEmpty) (.invalid "a build sheet needs at least one component")
  let priced ← components.mapM fun component => do
    let (line, cost, waste) ← componentCost rendered prices (1 + priceMovePct / 100)
      yieldMovePts component
    return (component, line, cost, waste)
  let sumOf := fun (kind : Component → Bool) =>
    ((priced.filter fun entry => kind entry.1).map fun entry => entry.2.2.1).sum
  let material := sumOf Component.isMaterial
  let parts := sumOf Component.isPart
  let labour := sumOf Component.isLabour
  return ⟨priced.map fun entry => entry.2.1, rate material, rate parts, rate labour,
    rate (material + parts + labour), rate (priced.map fun entry => entry.2.2.2).sum⟩

def unitCost (components : List Component) (prices : MaterialPrices) :
    Except CostError UnitCost :=
  unitCostWith rendered components prices 0 0

/-! ### Builds -/

/-- What a production run actually used of one material. -/
structure ActualMaterial where
  materialId : String
  boardFeet : ℚ
deriving DecidableEq

def reportsOf (actual : List ActualMaterial) (materialId : String) : List ActualMaterial :=
  actual.filter fun report => report.materialId = materialId

def isReported (actual : List ActualMaterial) (materialId : String) : Bool :=
  !(reportsOf actual materialId).isEmpty

def reportedBf (actual : List ActualMaterial) (materialId : String) : ℚ :=
  ((reportsOf actual materialId).map ActualMaterial.boardFeet).sum

def standardUse (quantity netBf yieldPct : ℚ) : Except CostError ℚ := do
  let share ← checkYield rendered yieldPct
  return netBf / share * quantity

structure VarianceLine where
  materialId : String
  standardBf : ℚ
  actualBf : ℚ
  varianceBf : ℚ
  varianceCost : Money
deriving DecidableEq

structure BuildVariance where
  quantity : ℚ
  standardCost : Money
  actualCost : Money
  variance : Money
  lines : List VarianceLine
  flagged : Bool
deriving DecidableEq

def overrunFlagPct : ℚ :=
  5

/-- What a material component comes to before anything is rounded. -/
structure Measured where
  materialId : String
  standardBf : ℚ
  actualBf : ℚ
  perBf : ℚ
deriving DecidableEq

namespace Measured

def varianceBf (measured : Measured) : ℚ :=
  measured.actualBf - measured.standardBf

def cost (measured : Measured) : ℚ :=
  measured.varianceBf * measured.perBf

def isOverrun (measured : Measured) : Bool :=
  measured.standardBf * overrunFlagPct < measured.varianceBf * 100

def line (measured : Measured) : Except CostError VarianceLine := do
  let varianceCost ← money measured.cost
  return ⟨measured.materialId, rate measured.standardBf, rate measured.actualBf,
    rate measured.varianceBf, varianceCost⟩

end Measured

/-- Price a component of a run, nothing for one that is no material. -/
def priceComponent (prices : MaterialPrices) (quantity : ℚ) (actual : List ActualMaterial) :
    Component → Except CostError (Option (Measured × VarianceLine))
  | .material materialId netBf yieldPct => do
    let standardBf ← standardUse rendered quantity netBf yieldPct
    let actualBf := if isReported actual materialId then reportedBf actual materialId
      else standardBf
    let measured : Measured :=
      ⟨materialId, standardBf, actualBf, (prices.perBf materialId).getD 0⟩
    let line ← measured.line
    return some (measured, line)
  | .part .. | .labour .. => return none

/-- Price a run against its build sheet, with the figures from before rounding
beside the result. -/
def buildVarianceWith (components : List Component) (prices : MaterialPrices) (quantity : ℚ)
    (actual : List ActualMaterial) : Except CostError (List Measured × BuildVariance) := do
  ensure (decide (0 < quantity)) (.invalid "a build makes at least one unit")
  let standard ← unitCost rendered components prices
  let priced ← components.mapM (priceComponent rendered prices quantity actual)
  let measured := priced.reduceOption.map Prod.fst
  let standardCost ← money (standard.total * quantity)
  let variance ← money (measured.map Measured.cost).sum
  let actualCost ← (standardCost.checkedAdd variance).mapError fun _ => .overflow
  return (measured, ⟨quantity, standardCost, actualCost, variance,
    priced.reduceOption.map Prod.snd, measured.any Measured.isOverrun⟩)

def buildVariance (components : List Component) (prices : MaterialPrices) (quantity : ℚ)
    (actual : List ActualMaterial) : Except CostError BuildVariance :=
  Prod.snd <$> buildVarianceWith rendered components prices quantity actual

end Mfg

end QuickBooks
