import QuickBooks.CheckedIntegers
import QuickBooks.DecimalNumbers

/-!
# Money

An amount of money is a whole number of cents in a signed sixty-four bit
integer.  Every operation is checked and returns a `MoneyError` rather than
wrapping, so the cents of a result are the exact ones.
-/

namespace QuickBooks

open CheckedIntegers DecimalNumbers ExceptPrograms

/-- A signed amount in minor units. -/
structure Money where
  cents : RangeInt (-9223372036854775808) 9223372036854775807
deriving DecidableEq

inductive MoneyError where
  | overflow
  | outOfRange (value : String)
deriving DecidableEq

/-- Where a rounding decision is being made. -/
inductive RoundingPolicy where
  | lineExtension
  | taxCalculation
  | mirroredAmount
deriving DecidableEq

namespace MoneyError

def message : MoneyError → String
  | overflow => "money arithmetic overflowed i64 minor units"
  | outOfRange value =>
    "decimal value " ++ value ++ " is outside the range representable as i64 minor units"

end MoneyError

namespace Money

def minor (money : Money) : Int :=
  money.cents.value

/-- The amount of a number of cents, which a literal shows to be in range. -/
def fromMinor (number : Int)
    (fits : decide (-9223372036854775808 ≤ number ∧ number ≤ 9223372036854775807) = true := by
      exact Eq.refl true) :
    Money :=
  ⟨⟨number, (of_decide_eq_true fits).1, (of_decide_eq_true fits).2⟩⟩

def zero : Money :=
  fromMinor 0

@[simp]
theorem minor_zero : zero.minor = 0 :=
  rfl

@[simp]
theorem minor_fromMinor (number : Int)
    (fits : decide (-9223372036854775808 ≤ number ∧ number ≤ 9223372036854775807) = true) :
    (fromMinor number fits).minor = number :=
  rfl

@[ext]
theorem ext {first second : Money} (minorEq : first.minor = second.minor) :
    first = second := by
  cases first
  cases second
  congr
  exact RangeInt.ext minorEq

theorem ext_iff_minor {first second : Money} :
    first = second ↔ first.minor = second.minor :=
  ⟨congrArg minor, ext⟩

/-- The checked outcome of an integer operation. -/
private def ofChecked
    (candidate : Option (RangeInt (-9223372036854775808) 9223372036854775807)) :
    Except MoneyError Money :=
  Money.mk <$> orRefuse .overflow candidate

private theorem ofChecked_ofInt?_eq_ok_iff {number : Int} {result : Money} :
    ofChecked (RangeInt.ofInt? number) = .ok result ↔ result.minor = number := by
  rw [ofChecked, map_eq_ok_iff]
  constructor
  · rintro ⟨cents, found, rfl⟩
    simpa [minor] using found
  · intro minorEq
    exact ⟨result.cents, by simpa [minor] using minorEq, rfl⟩

def checkedAdd (first second : Money) : Except MoneyError Money :=
  ofChecked (first.cents.checkedAdd second.cents)

def checkedSub (first second : Money) : Except MoneyError Money :=
  ofChecked (first.cents.checkedSub second.cents)

def checkedNeg (money : Money) : Except MoneyError Money :=
  ofChecked money.cents.checkedNeg

@[simp]
theorem checkedAdd_eq_ok_iff {first second result : Money} :
    first.checkedAdd second = .ok result ↔
      result.minor = first.minor + second.minor :=
  ofChecked_ofInt?_eq_ok_iff

@[simp]
theorem checkedSub_eq_ok_iff {first second result : Money} :
    first.checkedSub second = .ok result ↔
      result.minor = first.minor - second.minor :=
  ofChecked_ofInt?_eq_ok_iff

@[simp]
theorem checkedNeg_eq_ok_iff {money result : Money} :
    money.checkedNeg = .ok result ↔ result.minor = -money.minor :=
  ofChecked_ofInt?_eq_ok_iff

def ofMinor? (number : Int) : Option Money :=
  Money.mk <$> RangeInt.ofInt? number

@[simp]
theorem ofMinor?_eq_some_iff {number : Int} {result : Money} :
    ofMinor? number = some result ↔ result.minor = number := by
  unfold ofMinor?
  constructor
  · intro found
    obtain ⟨cents, inRange, rfl⟩ := Option.map_eq_some_iff.mp found
    simpa [minor] using inRange
  · intro minorEq
    exact Option.map_eq_some_iff.mpr ⟨result.cents, by simpa [minor] using minorEq, rfl⟩

def Fits (number : Int) : Prop :=
  RangeInt.InRange (-9223372036854775808) 9223372036854775807 number

private theorem exists_ofChecked_iff {number : Int} :
    (∃ result, ofChecked (RangeInt.ofInt? number) = .ok result) ↔ Fits number := by
  rw [Fits, ← RangeInt.exists_ofInt?_iff]
  constructor
  · rintro ⟨result, checked⟩
    rw [ofChecked_ofInt?_eq_ok_iff] at checked
    exact ⟨result.cents, by simpa [minor] using checked⟩
  · rintro ⟨cents, found⟩
    exact ⟨⟨cents⟩, ofChecked_ofInt?_eq_ok_iff.mpr (by simpa [minor] using found)⟩

theorem exists_checkedAdd_iff {first second : Money} :
    (∃ result, first.checkedAdd second = .ok result) ↔
      Fits (first.minor + second.minor) :=
  exists_ofChecked_iff

theorem exists_checkedSub_iff {first second : Money} :
    (∃ result, first.checkedSub second = .ok result) ↔
      Fits (first.minor - second.minor) :=
  exists_ofChecked_iff

def checkedSum (amounts : List Money) : Except MoneyError Money :=
  amounts.foldlM checkedAdd zero

theorem minor_checkedSum {amounts : List Money} {total : Money}
    (succeeds : checkedSum amounts = .ok total) :
    total.minor = (amounts.map minor).sum := by
  have summed := foldlM_invariant
    (fun consumed (partialSum : Money) =>
      partialSum.minor = (consumed.map minor).sum)
    (fun consumed amount before after holds step => by
      rw [checkedAdd_eq_ok_iff] at step
      simp [step, holds])
    (by simp) succeeds
  exact summed

theorem exists_checkedSum_iff {amounts : List Money} :
    (∃ total, checkedSum amounts = .ok total) ↔
      RunningSumFits (-9223372036854775808) 9223372036854775807 0
        (amounts.map minor) := by
  have adds : ∀ sum amount result : Money, sum.checkedAdd amount = .ok result →
      result.minor = sum.minor + amount.minor :=
    fun _ _ _ added => checkedAdd_eq_ok_iff.mp added
  exact exists_foldlM_ok_iff adds (fun _ _ => exists_checkedAdd_iff) amounts zero

theorem exists_checkedSum_iff_of_nonneg {amounts : List Money}
    (nonneg : ∀ amount ∈ amounts, 0 ≤ amount.minor) :
    (∃ total, checkedSum amounts = .ok total) ↔
      (amounts.map minor).sum ≤ 9223372036854775807 := by
  rw [exists_checkedSum_iff, runningSumFits_iff_of_nonneg, zero_add]
  · exact ⟨by norm_num, by norm_num⟩
  · intro step stepMem
    obtain ⟨amount, amountMem, rfl⟩ := List.mem_map.mp stepMem
    exact nonneg amount amountMem

theorem exists_checkedSum_of_natAbs {amounts : List Money}
    (fits : (amounts.map fun amount => (amount.minor.natAbs : Int)).sum ≤
      9223372036854775807) : ∃ total, checkedSum amounts = .ok total := by
  rw [exists_checkedSum_iff]
  refine runningSumFits_of_natAbs (by omega) le_rfl ?_
  rw [List.map_map]
  simpa [Function.comp_def] using fits

def isZero (money : Money) : Bool :=
  money.minor = 0

def isNegative (money : Money) : Bool :=
  money.minor < 0

@[simp]
theorem isZero_iff {money : Money} : money.isZero = true ↔ money.minor = 0 := by
  simp [isZero]

@[simp]
theorem isNegative_iff {money : Money} :
    money.isNegative = true ↔ money.minor < 0 := by
  simp [isNegative]

/-- The decimal value of an amount, in the main unit. -/
def toDecimal (money : Money) : Decimal :=
  ⟨money.minor, 2, by
    have lower := money.cents.lower_le
    have upper := money.cents.le_upper
    unfold minor
    omega, Nat.le_add_right 2 26⟩

def debug (money : Money) : String :=
  "Money(" ++ toString money.minor ++ ")"

end Money

/-- Convert a decimal to money.  Every policy rounds half away from zero. -/
def roundMoney (amount : Decimal) (_policy : RoundingPolicy) :
    Except MoneyError Money := do
  let minor ← orRefuse (.outOfRange amount.render)
    (amount.roundTwoPlaces.mul? Decimal.hundred)
  let cents ← orRefuse (.outOfRange amount.render) (RangeInt.ofInt? minor.trunc)
  return ⟨cents⟩

end QuickBooks
