import QuickBooks.LedgerMoney
import Mathlib.Tactic.Ring

/-!
# Whole cents

Which decimals are a whole number of cents, and what the conversion to money
does with the others: the amount it gives is always the nearest number of
cents, and it is the decimal itself exactly when the decimal is whole.
-/

namespace DecimalNumbers

namespace Decimal

def Cents (number : Decimal) (cents : Int) : Prop :=
  number.mantissa * 100 = cents * 10 ^ number.scale

/-- The number of cents nearest to the decimal, a midpoint going away from
zero. -/
def nearestCents (number : Decimal) : Int :=
  if number.scale ≤ 2 then number.mantissa * 10 ^ (2 - number.scale)
  else
    withSignOf number.mantissa
      (divHalfAway number.mantissa.natAbs (10 ^ (number.scale - 2)))

theorem Cents.unique {number : Decimal} {first second : Int}
    (firstIs : number.Cents first) (secondIs : number.Cents second) : first = second := by
  have positive : (10 : Int) ^ number.scale ≠ 0 := by positivity
  exact mul_right_cancel₀ positive (firstIs.symm.trans secondIs)

theorem cents_nearestCents_of_scale_le {number : Decimal} (coarse : number.scale ≤ 2) :
    number.Cents number.nearestCents := by
  have hundred : (100 : Int) = 10 ^ (2 - number.scale) * 10 ^ number.scale := by
    rw [← pow_add, Nat.sub_add_cancel coarse]
    norm_num
  rw [Cents, nearestCents, if_pos coarse, hundred, mul_assoc]

theorem withSignOf_mul_natAbs {signed : Int} {magnitude : Nat}
    (same : signed.natAbs = magnitude) : withSignOf signed magnitude = signed := by
  unfold withSignOf
  split_ifs <;> omega

theorem le_natAbs_trunc_of_fitProduct {product : Int} {dropped remaining : Nat}
    {result : Decimal} (fits : fitProduct product dropped remaining = some result) :
    product.natAbs / 10 ^ (dropped + remaining) ≤ result.trunc.natAbs := by
  induction remaining generalizing dropped with
  | zero =>
    unfold fitProduct at fits
    dsimp only at fits
    split_ifs at fits with fitsHere
    obtain rfl := Option.some.inj fits
    simp only [trunc, pow_zero, Int.tdiv_one, natAbs_withSignOf, Nat.add_zero]
    unfold divHalfEven
    dsimp only
    split_ifs <;> omega
  | succ remaining ih =>
    unfold fitProduct at fits
    dsimp only at fits
    split_ifs at fits with fitsHere
    · obtain rfl := Option.some.inj fits
      simp only [trunc, Int.natAbs_tdiv, natAbs_withSignOf, Int.natAbs_pow]
      rw [pow_add, ← Nat.div_div_eq_div_mul]
      apply Nat.div_le_div_right
      unfold divHalfEven
      dsimp only
      split_ifs <;> omega
    · have rest := ih fits
      rwa [Nat.add_right_comm, Nat.add_assoc] at rest

theorem scale_roundTwoPlaces_le (number : Decimal) : number.roundTwoPlaces.scale ≤ 2 := by
  unfold roundTwoPlaces
  split_ifs with coarse
  · exact coarse
  · exact le_rfl

theorem nearestCents_roundTwoPlaces (number : Decimal) :
    number.roundTwoPlaces.nearestCents = number.nearestCents := by
  unfold roundTwoPlaces
  split_ifs with coarse
  · rfl
  · simp [nearestCents, coarse]

theorem natAbs_div_large {product : Int} {scale : Nat} (coarse : scale ≤ 2)
    (large : ¬product.natAbs < 2 ^ 96) : 2 ^ 64 ≤ product.natAbs / 10 ^ scale := by
  have atMost : (10 : Nat) ^ scale ≤ 100 := Nat.pow_le_pow_right (by norm_num) coarse
  calc 2 ^ 64 ≤ product.natAbs / 100 := by omega
    _ ≤ product.natAbs / 10 ^ scale := Nat.div_le_div_left atMost (by positivity)

theorem mul_hundred_trunc_iff {number : Decimal} (coarse : number.scale ≤ 2) {cents : Int}
    (inRange : cents.natAbs < 2 ^ 64) :
    (∃ product, number.mul? hundred = some product ∧ product.trunc = cents) ↔
      cents = number.nearestCents := by
  have exactly : number.mantissa * 100 = number.nearestCents * 10 ^ number.scale :=
    cents_nearestCents_of_scale_le coarse
  have positive : (10 : Int) ^ number.scale ≠ 0 := by positivity
  by_cases isZero : number.mantissa = 0
  · have none : number.nearestCents = 0 := by
      simpa [isZero, positive] using exactly
    simp [mul?, isZero, none, trunc, zero, eq_comm]
  · have product : number.mul? hundred = fitProduct (number.mantissa * 100) 0 number.scale := by
      simp [mul?, isZero, hundred]
    rw [product]
    by_cases large : (number.mantissa * 100).natAbs < 2 ^ 96
    · have fits : fitProduct (number.mantissa * 100) 0 number.scale =
          some ⟨number.mantissa * 100, number.scale, large, number.scale_le⟩ := by
        have undropped : divHalfEven (number.mantissa * 100).natAbs (10 ^ 0) =
            (number.mantissa * 100).natAbs := by
          simp [divHalfEven, Nat.mod_one]
        unfold fitProduct
        simp only [undropped, dif_pos (And.intro large number.scale_le),
          withSignOf_mul_natAbs rfl]
      have truncEq : (number.mantissa * 100).tdiv (10 ^ number.scale) = number.nearestCents := by
        rw [exactly, Int.mul_tdiv_cancel _ positive]
      simp [fits, trunc, truncEq, eq_comm]
    · have far := natAbs_div_large coarse large
      constructor
      · rintro ⟨result, fits, rfl⟩
        have below := le_natAbs_trunc_of_fitProduct fits
        rw [Nat.zero_add] at below
        omega
      · rintro rfl
        rw [exactly, Int.natAbs_mul, Int.natAbs_pow, show Int.natAbs 10 = 10 from rfl,
          Nat.mul_div_cancel _ (by positivity)] at far
        omega

end Decimal

end DecimalNumbers

namespace QuickBooks

open CheckedIntegers DecimalNumbers ExceptPrograms

theorem Money.fits_minor (money : Money) : Money.Fits money.minor :=
  ⟨money.cents.lower_le, money.cents.le_upper⟩

theorem Money.exists_minor_eq {number : Int} (fits : Money.Fits number) :
    ∃ money : Money, money.minor = number := by
  obtain ⟨cents, found⟩ := RangeInt.exists_ofInt?_iff.mpr fits
  exact ⟨⟨cents⟩, RangeInt.ofInt?_eq_some_iff.mp found⟩

theorem roundMoney_eq_ok_iff {amount : Decimal} {policy : RoundingPolicy} {money : Money} :
    roundMoney amount policy = .ok money ↔ money.minor = amount.nearestCents := by
  have inRange : money.minor.natAbs < 2 ^ 64 := by
    have lower := money.cents.lower_le
    have upper := money.cents.le_upper
    unfold Money.minor
    omega
  rw [← amount.nearestCents_roundTwoPlaces,
    ← Decimal.mul_hundred_trunc_iff amount.scale_roundTwoPlaces_le inRange, roundMoney,
    bind_eq_ok_iff]
  constructor
  · rintro ⟨product, fits, rest⟩
    rw [bind_eq_ok_iff] at rest
    obtain ⟨cents, centsEq, moneyEq⟩ := rest
    rw [orRefuse_eq_ok_iff] at fits centsEq
    rw [pure_eq_ok_iff] at moneyEq
    subst moneyEq
    exact ⟨product, fits, (RangeInt.ofInt?_eq_some_iff.mp centsEq).symm⟩
  · rintro ⟨product, fits, truncEq⟩
    refine ⟨product, by rw [orRefuse_eq_ok_iff, fits], ?_⟩
    rw [bind_eq_ok_iff]
    refine ⟨money.cents, ?_, rfl⟩
    rw [orRefuse_eq_ok_iff, RangeInt.ofInt?_eq_some_iff]
    exact truncEq.symm

end QuickBooks
