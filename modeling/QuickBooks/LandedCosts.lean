import QuickBooks.BuildVariances
import QuickBooks.MaterialCosting

/-!
# Landed costs

A receipt's lines share its freight by board foot, and each line lands at what its sheets
cost and its share.  A share is computed in decimals and floored to the cent; the cents
left over go one each to the largest fractions, the earlier line first.  This is the
costing of the replica, and the ledger has an allocation of its own.
-/

namespace DecimalNumbers

namespace Decimal

def floor (number : Decimal) : ℤ :=
  number.mantissa / 10 ^ number.scale

/-- Rounding to a number of places, a midpoint going away from zero. -/
def roundPlaces (places : ℕ) (inRange : places ≤ 28) (number : Decimal) : Decimal :=
  if coarse : number.scale ≤ places then number
  else
    ⟨withSignOf number.mantissa
        (divHalfAway number.mantissa.natAbs (10 ^ (number.scale - places))), places,
      by
        rw [natAbs_withSignOf]
        have large : 2 ≤ 10 ^ (number.scale - places) :=
          le_trans (by norm_num)
            (Nat.pow_le_pow_right (by norm_num) (by omega : 1 ≤ number.scale - places))
        exact lt_of_le_of_lt (divHalfAway_le large) number.mantissa_lt,
      inRange⟩

/-- A mantissa over a power of ten, without the trailing zeros. -/
def stripZeros (mantissa : ℤ) (fits : mantissa.natAbs < 2 ^ 96) :
    (scale : ℕ) → scale ≤ 28 → Decimal
  | 0, inRange => ⟨mantissa, 0, fits, inRange⟩
  | scale + 1, inRange =>
    if mantissa.tmod 10 = 0 then
      stripZeros (mantissa.tdiv 10)
        (by
          rw [Int.natAbs_tdiv]
          exact lt_of_le_of_lt (Nat.div_le_self _ _) fits)
        scale (by omega)
    else ⟨mantissa, scale + 1, fits, inRange⟩

def normalize (number : Decimal) : Decimal :=
  stripZeros number.mantissa number.mantissa_lt number.scale number.scale_le

end Decimal

end DecimalNumbers

namespace QuickBooks

open DecimalNumbers ExceptPrograms

namespace Mfg

namespace Landing

/-- A receipt is refused, or an operation on it panics. -/
inductive ReceiptFailure where
  | refused (error : CostError)
  | panicked (text : String)
deriving DecidableEq

abbrev Receiving :=
  Except ReceiptFailure

/-- Sheets of one material on one delivery. -/
structure ReceiptLine where
  materialId : String
  sheets : Decimal
  bfPerSheet : Decimal
  pricePerSheet : Decimal
  surchargePerSheet : Decimal
deriving DecidableEq

structure LandedLine where
  materialId : String
  boardFeet : Decimal
  goods : Money
  freight : Money
  landed : Money
  landedPerBf : Decimal
deriving DecidableEq

def invalid (message : String) : ReceiptFailure :=
  .refused (.invalid message)

def overflow : ReceiptFailure :=
  .refused .overflow

def orPanic {α : Type} : Option α → Receiving α :=
  orRefuse (.panicked "decimal arithmetic overflowed")

def inSixtyFour (number : ℤ) : Receiving ℤ :=
  if -9223372036854775808 ≤ number ∧ number ≤ 9223372036854775807 then return number
  else throw (.panicked "integer arithmetic overflowed")

def rate (value : Decimal) : Decimal :=
  (value.roundPlaces 4 (by norm_num)).normalize

def money (value : Decimal) : Receiving Money :=
  (roundMoney value .lineExtension).mapError fun _ => overflow

/-- The board feet of a line, when its numbers are acceptable. -/
def lineBoardFeet (line : ReceiptLine) : Receiving Decimal := do
  ensure (0 < line.sheets.mantissa ∧ 0 < line.bfPerSheet.mantissa)
    (invalid (line.materialId ++ ": sheets and board-feet per sheet must be more than zero"))
  ensure (0 ≤ line.pricePerSheet.mantissa ∧ 0 ≤ line.surchargePerSheet.mantissa)
    (invalid (line.materialId ++ ": prices cannot be negative"))
  orRefuse overflow (line.sheets.mul? line.bfPerSheet)

theorem wholeScale_le : 0 ≤ 28 :=
  Nat.zero_le 28

def ofWhole (number : ℤ) : Receiving Decimal :=
  if fits : number.natAbs < 2 ^ 96 then return ⟨number, 0, fits, wholeScale_le⟩
  else throw (.panicked "decimal arithmetic overflowed")

def floorCents (share : Decimal) : ℤ :=
  if -9223372036854775808 ≤ share.floor ∧ share.floor ≤ 9223372036854775807 then share.floor
  else 0

/-- The places of the fractions, the largest first and the earlier of equals first. -/
def leftoverOrder (fractions : List Decimal) : List ℕ :=
  (fractions.zipIdx.insertionSort fun first second =>
    ShopFloor.isLess second.1 first.1 ∨
      (!ShopFloor.isLess first.1 second.1 ∧ first.2 ≤ second.2)).map Prod.snd

section Priced

variable (arith : ShopFloor.DecimalArithmetic)

def sumBoardFeet (bf : List Decimal) : Receiving Decimal :=
  bf.foldlM (fun sum feet => orPanic (arith.add sum feet)) Decimal.zero

def exactShare (freight : Money) (totalBf boardFeet : Decimal) : Receiving Decimal := do
  let freightCents ← ofWhole freight.minor
  let product ← orPanic (freightCents.mul? boardFeet)
  orPanic (arith.div product totalBf)

def fraction (share : Decimal) : Receiving Decimal := do
  let whole ← ofWhole share.floor
  orPanic (arith.add share whole.negated)

/-- One line with its share of the freight. -/
def landLine (line : ReceiptLine) (boardFeet : Decimal) (share : ℤ) :
    Receiving LandedLine := do
  let perSheet ← orPanic (arith.add line.pricePerSheet line.surchargePerSheet)
  let extended ← orRefuse overflow (perSheet.mul? line.sheets)
  let goods ← money extended
  let freight ← orRefuse (.panicked "integer arithmetic overflowed") (Money.ofMinor? share)
  let landed ← (goods.checkedAdd freight).mapError fun _ => overflow
  let perBf ← orPanic (arith.div landed.toDecimal boardFeet)
  return ⟨line.materialId, boardFeet, goods, freight, landed, rate perBf⟩

/-- The shares of the freight: floors first, then the cents left over, round and round in
the order of the fractions. -/
def freightShares (freight : Money) (bf : List Decimal) : Receiving (List ℤ) := do
  let totalBf ← sumBoardFeet arith bf
  let exact ← bf.mapM (exactShare arith freight totalBf)
  let cents := exact.map floorCents
  let allocated ← cents.foldlM (fun sum share => inSixtyFour (sum + share)) 0
  let leftover ← inSixtyFour (freight.minor - allocated)
  let fractions ← exact.mapM (fraction arith)
  return ShopFloor.dealCents (leftoverOrder fractions) leftover.toNat 0 cents

/-- Allocate the freight by board foot and land every line. -/
def landedCost (lines : List ReceiptLine) (freight : Money) : Receiving (List LandedLine) := do
  ensure (!lines.isEmpty) (invalid "a receipt needs at least one line")
  ensure (0 ≤ freight.minor) (invalid "freight cannot be negative")
  let bf ← lines.mapM lineBoardFeet
  let cents ← freightShares arith freight bf
  (lines.zip (bf.zip cents)).mapM fun row => landLine arith row.1 row.2.1 row.2.2

end Priced

end Landing

end Mfg

end QuickBooks
