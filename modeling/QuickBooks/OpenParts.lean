import QuickBooks.NearestDecimals
import QuickBooks.OrderFeeds
import QuickBooks.TypedMoney

/-!
# What is open of an order

What is open of a line is priced in two ways, and whether an order is open is decided from
a sum.  Both keep to the line and to its sign where the amount of the line is no less than
its quantity at its rate and the quantity is positive.
-/

namespace DecimalNumbers

/-- Up to a part of it and a unit of the last place there can be, a result is the exact
one. -/
theorem IsNearest.close {number : Decimal} {exact : ℚ} (nearest : IsNearest number exact) :
    |number.toRat - exact| ≤ |number.toRat| / 2 ^ 93 + 1 / 10 ^ 28 := by
  have partNonneg : 0 ≤ |number.toRat| / 2 ^ 93 := by positivity
  obtain ⟨places, -, coarse, near, same | rfl | noRoom⟩ := nearest
  · rw [same, sub_self, abs_zero, ← same]
    positivity
  · apply near.trans
    have half : (1 / 2 / 10 ^ 28 : ℚ) ≤ 1 / 10 ^ 28 := by norm_num
    linarith
  · have small := near.trans (IsNearest.half_unit_le coarse noRoom)
    have positive : (0 : ℚ) ≤ 1 / 10 ^ 28 := by norm_num
    linarith

theorem isNearest_of_eq {number : Decimal} {exact : ℚ} (same : number.toRat = exact) :
    IsNearest number exact := by
  refine ⟨number.scale, number.scale_le, le_refl _, ?_, .inl same⟩
  rw [same, sub_self, abs_zero]
  positivity

namespace Decimal

variable {number first second : Decimal}

@[simp]
theorem unitsAt_negated (places : ℕ) : number.negated.unitsAt places = -number.unitsAt places := by
  simp [unitsAt, negated]

theorem isNearest_negated {exact : ℚ} (nearest : IsNearest number exact) :
    IsNearest number.negated (-exact) := by
  obtain ⟨places, inRange, coarse, near, finest⟩ := nearest
  refine ⟨places, inRange, coarse, ?_, ?_⟩
  · rwa [toRat_negated, neg_sub_neg, abs_sub_comm]
  · rw [toRat_negated, unitsAt_negated, Int.natAbs_neg, neg_inj]
    exact finest

theorem nonpos_of_isNearest {exact : ℚ} (nearest : IsNearest number exact)
    (notPositive : exact ≤ 0) : number.toRat ≤ 0 := by
  have turned := (isNearest_negated nearest).nonneg (neg_nonneg.mpr notPositive)
  rwa [toRat_negated, neg_nonneg] at turned

/-! ### The nearest cents -/

def nearestWhole (value : ℚ) : ℤ :=
  if value < 0 then -⌊-value + 1 / 2⌋ else ⌊value + 1 / 2⌋

theorem nearestWhole_mono {value larger : ℚ} (atMost : value ≤ larger) :
    nearestWhole value ≤ nearestWhole larger := by
  have half (number : ℚ) (notNegative : 0 ≤ number) : 0 ≤ ⌊number + 1 / 2⌋ := by
    apply Int.floor_nonneg.mpr
    linarith
  unfold nearestWhole
  split_ifs with negative largerNegative largerNegative
  · apply neg_le_neg
    apply Int.floor_le_floor
    linarith
  · have below := half (-value) (by linarith)
    have above := half larger (not_lt.mp largerNegative)
    omega
  · exact absurd (lt_of_le_of_lt atMost largerNegative) negative
  · apply Int.floor_le_floor
    linarith

theorem nearestWhole_le {value : ℚ} {whole : ℤ} (notNegative : 0 ≤ whole)
    (below : value < whole + 1 / 2) : nearestWhole value ≤ whole := by
  unfold nearestWhole
  split_ifs with negative
  · have half : 0 ≤ ⌊-value + 1 / 2⌋ := by
      apply Int.floor_nonneg.mpr
      linarith
    omega
  · apply Int.lt_add_one_iff.mp
    rw [Int.floor_lt]
    push_cast
    linarith

@[simp]
theorem nearestWhole_intCast (number : ℤ) : nearestWhole number = number := by
  have half : ⌊(1 / 2 : ℚ)⌋ = 0 := by norm_num
  unfold nearestWhole
  split_ifs
  · rw [← Int.cast_neg, Int.floor_intCast_add, half]
    ring
  · rw [Int.floor_intCast_add, half, add_zero]

theorem nearestWhole_neg (value : ℚ) : nearestWhole (-value) = -nearestWhole value := by
  rcases lt_trichotomy value 0 with negative | rfl | positive
  · have notNegative : ¬ -value < 0 := by linarith
    rw [nearestWhole, nearestWhole, if_neg notNegative, if_pos negative, neg_neg]
  · rw [neg_zero, ← Int.cast_zero, nearestWhole_intCast, neg_zero]
  · have negative : -value < 0 := by linarith
    rw [nearestWhole, nearestWhole, if_pos negative, if_neg (by linarith), neg_neg]

theorem divHalfAway_eq {number divisor : ℕ} (even : 2 ∣ divisor) (positive : 0 < divisor) :
    (divHalfAway number divisor : ℤ) = ⌊(number / divisor : ℚ) + 1 / 2⌋ := by
  obtain ⟨half, rfl⟩ := even
  have halfPositive : (0 : ℚ) < half := by
    have twice : 0 < half := by omega
    exact_mod_cast twice
  have sumEq : (number / ((2 * half : ℕ) : ℚ) + 1 / 2 : ℚ) =
      ((number + half : ℕ) : ℚ) / ((2 * half : ℕ) : ℚ) := by
    push_cast
    field_simp
  rw [sumEq, divHalfAway, Nat.mul_div_cancel_left _ (by norm_num), Rat.floor_natCast_div_natCast]
  exact Int.natCast_ediv _ _

theorem nearestCents_eq : number.nearestCents = nearestWhole (number.toRat * 100) := by
  by_cases coarse : number.scale ≤ 2
  · have whole : number.toRat * 100 = number.nearestCents :=
      cents_iff_toRat.mp (cents_nearestCents_of_scale_le coarse)
    rw [whole, nearestWhole_intCast]
  · have places : (10 : ℚ) ^ number.scale = 10 ^ (number.scale - 2) * 100 := by
      have split : number.scale = (number.scale - 2) + 2 := by omega
      conv_lhs => rw [split, pow_add]
      norm_num
    have hundredfold : number.toRat * 100 =
        number.mantissa / ((10 ^ (number.scale - 2) : ℕ) : ℚ) := by
      rw [toRat, places]
      push_cast
      field_simp
    have even : 2 ∣ 10 ^ (number.scale - 2) :=
      dvd_pow (by norm_num) (by omega)
    have positive : (0 : ℚ) < ((10 ^ (number.scale - 2) : ℕ) : ℚ) := by positivity
    have sign : number.toRat * 100 < 0 ↔ number.mantissa < 0 := by
      rw [hundredfold, div_lt_iff₀ positive, zero_mul]
      exact_mod_cast Iff.rfl
    unfold nearestCents nearestWhole withSignOf
    rw [if_neg coarse, divHalfAway_eq even (by positivity)]
    simp only [sign]
    split_ifs with negative
    · have magnitude : (number.mantissa.natAbs : ℚ) = -number.mantissa := by
        rw [Nat.cast_natAbs, abs_of_neg negative, Int.cast_neg]
      rw [magnitude, hundredfold, neg_div]
    · have magnitude : (number.mantissa.natAbs : ℚ) = number.mantissa := by
        rw [Nat.cast_natAbs, abs_of_nonneg (not_lt.mp negative)]
      rw [magnitude, hundredfold]

theorem nearestCents_mono (atMost : first.toRat ≤ second.toRat) :
    first.nearestCents ≤ second.nearestCents := by
  rw [nearestCents_eq, nearestCents_eq]
  apply nearestWhole_mono
  linarith

@[simp]
theorem nearestCents_negated : number.negated.nearestCents = -number.nearestCents := by
  rw [nearestCents_eq, nearestCents_eq, toRat_negated, neg_mul, nearestWhole_neg]

/-- What is divided again after a rounded product comes to no more cents than the amount
that was taken a part of. -/
theorem nearestCents_mem_of_part {product quotient : Decimal} {amount units : ℤ}
    {part whole : ℚ} (notNegative : 0 ≤ amount) (fits : amount ≤ 2 ^ 63)
    (inWhole : 0 ≤ part ∧ part ≤ whole) (positive : 0 < whole)
    (isUnits : (amount / 100 * part : ℚ) = units / 10 ^ 28)
    (multiplies : IsNearest product (amount / 100 * part))
    (divides : IsNearest quotient (product.toRat / whole)) :
    0 ≤ quotient.nearestCents ∧ quotient.nearestCents ≤ amount := by
  have amountRat : (0 : ℚ) ≤ amount / 100 := by
    have cast : (0 : ℚ) ≤ amount := by exact_mod_cast notNegative
    positivity
  have exactNonneg : 0 ≤ (amount / 100 * part : ℚ) := mul_nonneg amountRat inWhole.1
  have productNonneg := multiplies.nonneg exactNonneg
  have quotientNonneg := divides.nonneg (div_nonneg productNonneg positive.le)
  constructor
  · have atLeast : zero.nearestCents ≤ quotient.nearestCents :=
      nearestCents_mono (toRat_zero.trans_le quotientNonneg)
    exact atLeast
  · have productClose := (abs_le.mp (multiplies.close_of_units exactNonneg isUnits)).2
    have quotientClose := (abs_le.mp divides.close).2
    rw [abs_of_nonneg quotientNonneg] at quotientClose
    have productBound : product.toRat / whole * (1 - 1 / 2 ^ 93) ≤ amount / 100 := by
      rw [div_mul_eq_mul_div, div_le_iff₀ positive]
      have inAmount := mul_le_mul_of_nonneg_left inWhole.2 amountRat
      linarith
    have quotientBound : quotient.toRat * (1 - 1 / 2 ^ 93) ^ 2 ≤ amount / 100 + 1 / 10 ^ 28 := by
      have lessPart : (0 : ℚ) ≤ 1 - 1 / 2 ^ 93 := by norm_num
      calc quotient.toRat * (1 - 1 / 2 ^ 93) ^ 2
          = quotient.toRat * (1 - 1 / 2 ^ 93) * (1 - 1 / 2 ^ 93) := by ring
        _ ≤ (product.toRat / whole + 1 / 10 ^ 28) * (1 - 1 / 2 ^ 93) :=
            mul_le_mul_of_nonneg_right (by linarith) lessPart
        _ ≤ amount / 100 + 1 / 10 ^ 28 := by
            rw [add_mul]
            have tiny : (1 / 10 ^ 28 : ℚ) * (1 - 1 / 2 ^ 93) ≤ 1 / 10 ^ 28 := by norm_num
            linarith
    rw [nearestCents_eq]
    apply nearestWhole_le notNegative
    by_contra above
    have fitsRat : (amount : ℚ) ≤ 2 ^ 63 := by exact_mod_cast fits
    have atLeast : ((amount : ℚ) + 1 / 2) / 100 ≤ quotient.toRat := by linarith
    have scaled := mul_le_mul_of_nonneg_right atLeast
      (by norm_num : (0 : ℚ) ≤ (1 - 1 / 2 ^ 93) ^ 2)
    have together := scaled.trans quotientBound
    norm_num at together fitsRat
    linarith

end Decimal

end DecimalNumbers

namespace QuickBooks

open DecimalNumbers ExceptPrograms

namespace OrderFeeds

/-- What is documented of the decimals: every result is rounded to nearest, rounding keeps
the order, a difference has no more places than its operands, and taking nothing away
changes nothing. -/
structure OrderArithmetic.Lawful (arith : OrderArithmetic) : Prop where
  mul {first second product : Decimal} : arith.mul first second = some product →
    IsNearest product (first.toRat * second.toRat)
  mul_mono {first second product third fourth other : Decimal} :
    arith.mul first second = some product → arith.mul third fourth = some other →
      first.toRat * second.toRat ≤ third.toRat * fourth.toRat → product.toRat ≤ other.toRat
  div {dividend divisor quotient : Decimal} : arith.div dividend divisor = some quotient →
    divisor.mantissa ≠ 0 ∧ IsNearest quotient (dividend.toRat / divisor.toRat)
  div_mono {first second quotient third fourth other : Decimal} :
    arith.div first second = some quotient → arith.div third fourth = some other →
      first.toRat / second.toRat ≤ third.toRat / fourth.toRat → quotient.toRat ≤ other.toRat
  sub {first second difference : Decimal} : arith.sub first second = some difference →
    IsNearest difference (first.toRat - second.toRat) ∧
      difference.scale ≤ max first.scale second.scale
  sub_mono {first second difference third fourth other : Decimal} :
    arith.sub first second = some difference → arith.sub third fourth = some other →
      first.toRat - second.toRat ≤ third.toRat - fourth.toRat →
        difference.toRat ≤ other.toRat
  sub_nothing {first second difference : Decimal} : arith.sub first second = some difference →
    second.toRat = 0 → difference.toRat = first.toRat

def Within (amount part : ℤ) : Prop :=
  0 ≤ part ∧ part ≤ amount ∨ amount ≤ part ∧ part ≤ 0

/-! ### The open part of an amount -/

variable {arith : OrderArithmetic} {amount part : Money} {qty remaining : Decimal}
  {rate : Option Decimal} {price : Decimal}

theorem orPanic_eq_ok_iff {α : Type} {candidate : Option α} {result : α} :
    orPanic candidate = .ok result ↔ candidate = some result :=
  orRefuse_eq_ok_iff

theorem toMoney_eq_ok_iff {number : Decimal} {result : Money} :
    toMoney number = .ok result ↔ result.minor = number.nearestCents := by
  unfold toMoney
  rw [mapError_eq_ok_iff, roundMoney_eq_ok_iff]

/-- What remains of a line is priced at its rate, or at its share of the amount. -/
def Prices (arith : OrderArithmetic) (amount : Money) (qty remaining : Decimal)
    (rate : Option Decimal) (price : Decimal) : Prop :=
  ∃ product, arith.mul (rate.getD amount.toDecimal) remaining = some product ∧
    ((∃ own, rate = some own ∧ price = product) ∨
      rate = none ∧ arith.div product qty = some price)

theorem openPart_cases (opens : openPart arith amount qty remaining rate = .ok part) :
    (qty.toRat ≤ remaining.toRat ∧ part = amount) ∨
      (remaining.toRat < qty.toRat ∧ remaining.toRat ≤ 0 ∧ part = Money.zero) ∨
      (remaining.toRat < qty.toRat ∧ 0 < remaining.toRat ∧
        ∃ price, Prices arith amount qty remaining rate price ∧
          part.minor = price.nearestCents) := by
  unfold openPart at opens
  split_ifs at opens with enough nothing
  · exact .inl ⟨Decimal.toRat_le_iff.mpr enough, (pure_eq_ok_iff.mp opens).symm⟩
  · have less : remaining.toRat < qty.toRat := by
      rw [← not_le, Decimal.toRat_le_iff]
      exact enough
    have notPositive : remaining.toRat ≤ 0 := by
      rw [← not_lt, Decimal.toRat_pos_iff]
      omega
    exact .inr (.inl ⟨less, notPositive, (pure_eq_ok_iff.mp opens).symm⟩)
  · have less : remaining.toRat < qty.toRat := by
      rw [← not_le, Decimal.toRat_le_iff]
      exact enough
    have positive : 0 < remaining.toRat := Decimal.toRat_pos_iff.mpr (by omega)
    refine .inr (.inr ⟨less, positive, ?_⟩)
    cases rate with
    | some rate =>
      simp only [bind_eq_ok_iff, orPanic_eq_ok_iff, toMoney_eq_ok_iff] at opens
      obtain ⟨product, multiplies, rounds⟩ := opens
      exact ⟨product, ⟨product, multiplies, .inl ⟨rate, rfl, rfl⟩⟩, rounds⟩
    | none =>
      simp only [bind_eq_ok_iff, orPanic_eq_ok_iff, toMoney_eq_ok_iff] at opens
      obtain ⟨product, multiplies, quotient, divides, rounds⟩ := opens
      exact ⟨quotient, ⟨product, multiplies, .inr ⟨rfl, divides⟩⟩, rounds⟩

theorem Prices.nonneg (lawful : arith.Lawful)
    (prices : Prices arith amount qty remaining rate price) (positive : 0 < qty.toRat) (left : 0 ≤ remaining.toRat)
    (sign : 0 ≤ (rate.getD amount.toDecimal).toRat) : 0 ≤ price.toRat := by
  obtain ⟨product, multiplies, ⟨_, -, rfl⟩ | ⟨-, divides⟩⟩ := prices
  · exact (lawful.mul multiplies).nonneg (mul_nonneg sign left)
  · apply (lawful.div divides).2.nonneg
    exact div_nonneg ((lawful.mul multiplies).nonneg (mul_nonneg sign left)) positive.le

theorem Prices.nonpos (lawful : arith.Lawful)
    (prices : Prices arith amount qty remaining rate price) (positive : 0 < qty.toRat) (left : 0 ≤ remaining.toRat)
    (sign : (rate.getD amount.toDecimal).toRat ≤ 0) : price.toRat ≤ 0 := by
  obtain ⟨product, multiplies, ⟨_, -, rfl⟩ | ⟨-, divides⟩⟩ := prices
  · exact Decimal.nonpos_of_isNearest (lawful.mul multiplies) (mul_nonpos_of_nonpos_of_nonneg sign left)
  · apply Decimal.nonpos_of_isNearest (lawful.div divides).2
    exact div_nonpos_of_nonpos_of_nonneg
      (Decimal.nonpos_of_isNearest (lawful.mul multiplies) (mul_nonpos_of_nonpos_of_nonneg sign left))
      positive.le

theorem Prices.mono (lawful : arith.Lawful) {fewer lower : Decimal}
    (prices : Prices arith amount qty remaining rate price)
    (other : Prices arith amount qty fewer rate lower) (positive : 0 < qty.toRat)
    (less : (rate.getD amount.toDecimal).toRat * fewer.toRat ≤
      (rate.getD amount.toDecimal).toRat * remaining.toRat) : lower.toRat ≤ price.toRat := by
  obtain ⟨product, multiplies, ⟨own, isOwn, rfl⟩ | ⟨isNone, divides⟩⟩ := prices
  · obtain ⟨smaller, multipliesLess, ⟨_, -, rfl⟩ | ⟨isNone, -⟩⟩ := other
    · exact lawful.mul_mono multipliesLess multiplies less
    · exact absurd (isOwn.symm.trans isNone) (by simp)
  · obtain ⟨smaller, multipliesLess, ⟨_, isOwn, -⟩ | ⟨-, dividesLess⟩⟩ := other
    · exact absurd (isOwn.symm.trans isNone) (by simp)
    · apply lawful.div_mono dividesLess divides
      exact div_le_div_of_nonneg_right (lawful.mul_mono multipliesLess multiplies less) positive.le

theorem within_self (amount : ℤ) : Within amount amount := by
  unfold Within
  omega

theorem within_zero (amount : ℤ) : Within amount 0 := by
  unfold Within
  omega

theorem toRat_toDecimal (amount : Money) : amount.toDecimal.toRat = amount.minor / 100 := by
  change (amount.minor / 10 ^ 2 : ℚ) = _
  norm_num

/-- What keeps the price of what remains within the amount: the quantity at the rate is
within it, or the quantities are coarse enough for their product with an amount. -/
def Bounded (arith : OrderArithmetic) (amount : Money) (qty remaining : Decimal)
    (rate : Option Decimal) : Prop :=
  match rate with
  | some rate => ∃ product, arith.mul qty rate = some product ∧
      Within amount.minor product.nearestCents
  | none => remaining.scale ≤ 26

theorem within_share (lawful : arith.Lawful) {product : Decimal} (coarse : remaining.scale ≤ 26)
    (inWhole : 0 ≤ remaining.toRat ∧ remaining.toRat ≤ qty.toRat) (positive : 0 < qty.toRat)
    (multiplies : arith.mul amount.toDecimal remaining = some product)
    (divides : arith.div product qty = some price) :
    Within amount.minor price.nearestCents := by
  have multiplied := lawful.mul multiplies
  have divided := (lawful.div divides).2
  have lower := amount.cents.lower_le
  have upper := amount.cents.le_upper
  change _ ≤ amount.minor at lower
  change amount.minor ≤ _ at upper
  have isUnits : (amount.minor / 100 * remaining.toRat : ℚ) =
      ((amount.minor * remaining.unitsAt 26 : ℤ) : ℚ) / 10 ^ 28 := by
    rw [Decimal.toRat_eq_unitsAt coarse]
    push_cast
    rw [div_mul_div_comm]
    norm_num
  rw [toRat_toDecimal] at multiplied
  rcases le_total 0 amount.minor with notNegative | notPositive
  · exact .inl (Decimal.nearestCents_mem_of_part notNegative (by omega) inWhole positive isUnits
      multiplied divided)
  · right
    have turnedUnits : ((-amount.minor : ℤ) / 100 * remaining.toRat : ℚ) =
        ((-(amount.minor * remaining.unitsAt 26) : ℤ) : ℚ) / 10 ^ 28 := by
      push_cast at isUnits ⊢
      rw [neg_div, neg_mul, isUnits, neg_div]
    have turnedProduct : IsNearest product.negated
        ((-amount.minor : ℤ) / 100 * remaining.toRat) := by
      have turned := Decimal.isNearest_negated multiplied
      rwa [← neg_mul, ← neg_div, ← Int.cast_neg] at turned
    have turnedPrice : IsNearest price.negated (product.negated.toRat / qty.toRat) := by
      have turned := Decimal.isNearest_negated divided
      rwa [← neg_div, ← Decimal.toRat_negated] at turned
    have bounds := Decimal.nearestCents_mem_of_part (by omega) (by omega) inWhole positive
      turnedUnits turnedProduct turnedPrice
    rw [Decimal.nearestCents_negated] at bounds
    omega

theorem within_openPart (lawful : arith.Lawful) (positive : 0 < qty.toRat)
    (bounded : Bounded arith amount qty remaining rate)
    (opens : openPart arith amount qty remaining rate = .ok part) :
    Within amount.minor part.minor := by
  rcases openPart_cases opens with ⟨-, rfl⟩ | ⟨-, -, rfl⟩ | ⟨less, left, price, prices, minorEq⟩
  · exact within_self _
  · exact within_zero _
  · rw [minorEq]
    cases rate with
    | none =>
      obtain ⟨product, multiplies, ⟨_, isOwn, -⟩ | ⟨-, divides⟩⟩ := prices
      · cases isOwn
      · exact within_share lawful bounded ⟨left.le, less.le⟩ positive multiplies divides
    | some rate =>
      obtain ⟨whole, wholeMultiplies, inAmount⟩ := bounded
      obtain ⟨product, multiplies, ⟨_, -, rfl⟩ | ⟨isNone, -⟩⟩ := prices
      · have nothing : Decimal.zero.nearestCents = 0 := rfl
        rcases le_total 0 rate.toRat with notNegative | notPositive
        · have atMost : price.nearestCents ≤ whole.nearestCents := by
            apply Decimal.nearestCents_mono
            apply lawful.mul_mono multiplies wholeMultiplies
            rw [mul_comm qty.toRat]
            exact mul_le_mul_of_nonneg_left less.le notNegative
          have atLeast : Decimal.zero.nearestCents ≤ price.nearestCents := by
            apply Decimal.nearestCents_mono
            rw [Decimal.toRat_zero]
            exact (lawful.mul multiplies).nonneg (mul_nonneg notNegative left.le)
          unfold Within at inAmount ⊢
          omega
        · have atLeast : whole.nearestCents ≤ price.nearestCents := by
            apply Decimal.nearestCents_mono
            apply lawful.mul_mono wholeMultiplies multiplies
            rw [mul_comm qty.toRat]
            exact mul_le_mul_of_nonpos_left less.le notPositive
          have atMost : price.nearestCents ≤ Decimal.zero.nearestCents := by
            apply Decimal.nearestCents_mono
            rw [Decimal.toRat_zero]
            exact Decimal.nonpos_of_isNearest (lawful.mul multiplies)
              (mul_nonpos_of_nonpos_of_nonneg notPositive left.le)
          unfold Within at inAmount ⊢
          omega
      · cases isNone

theorem openPart_mono (lawful : arith.Lawful) (positive : 0 < qty.toRat)
    {fewer : Decimal} {lower : Money} (bounded : Bounded arith amount qty fewer rate)
    (less : fewer.toRat ≤ remaining.toRat)
    (opens : openPart arith amount qty remaining rate = .ok part)
    (opensLess : openPart arith amount qty fewer rate = .ok lower) :
    Within part.minor lower.minor := by
  rcases openPart_cases opens with ⟨-, rfl⟩ | ⟨below, nothing, rfl⟩ |
    ⟨below, left, price, prices, minorEq⟩
  · exact within_openPart lawful positive bounded opensLess
  · rcases openPart_cases opensLess with ⟨enough, -⟩ | ⟨-, -, rfl⟩ | ⟨-, some, -⟩
    · linarith
    · exact within_self _
    · linarith
  · rcases openPart_cases opensLess with ⟨enough, -⟩ | ⟨-, -, rfl⟩ |
      ⟨-, some, lowerPrice, lowerPrices, lowerEq⟩
    · linarith
    · exact within_zero _
    · have nothing : Decimal.zero.nearestCents = 0 := rfl
      rw [minorEq, lowerEq]
      rcases le_total 0 (rate.getD amount.toDecimal).toRat with notNegative | notPositive
      · left
        rw [← nothing]
        constructor
        · apply Decimal.nearestCents_mono
          rw [Decimal.toRat_zero]
          exact lowerPrices.nonneg lawful positive some.le notNegative
        · apply Decimal.nearestCents_mono
          exact prices.mono lawful lowerPrices positive
            (mul_le_mul_of_nonneg_left less notNegative)
      · right
        rw [← nothing]
        constructor
        · apply Decimal.nearestCents_mono
          exact lowerPrices.mono lawful prices positive
            (mul_le_mul_of_nonpos_left less notPositive)
        · apply Decimal.nearestCents_mono
          rw [Decimal.toRat_zero]
          exact lowerPrices.nonpos lawful positive some.le notPositive

/-! ### The lines of an order -/

theorem toRat_orZero (number : Decimal) : (orZero number).toRat = max number.toRat 0 := by
  unfold orZero
  split_ifs with negative
  · have below : number.toRat ≤ 0 := by
      rw [← not_lt, Decimal.toRat_pos_iff]
      omega
    rw [Decimal.toRat_zero, max_eq_right below]
  · have notBelow : 0 ≤ number.toRat := by
      have positive : (0 : ℚ) < 10 ^ number.scale := by positivity
      rw [Decimal.toRat, le_div_iff₀ positive, zero_mul]
      exact_mod_cast not_lt.mp negative
    rw [max_eq_left notBelow]

theorem scale_orZero_le (number : Decimal) : (orZero number).scale ≤ number.scale := by
  unfold orZero
  split_ifs
  · exact Nat.zero_le _
  · exact le_refl _

variable {readers : FeedReaders} {order : FeedSalesOrder} {projected : SalesOrder}
  {line : SalesOrderLine} {settledOrder : Bool}

def OpensAs (arith : OrderArithmetic) (settledOrder : Bool) (line : SalesOrderLine) : Prop :=
  lineOpen arith settledOrder line.qty line.unitPrice line.amount line.qtyInvoiced =
    .ok (line.qtyOpen, line.openAmount)

theorem opensAs_of_projectLine {indexed : FeedLine × ℕ}
    (projects : projectLine arith readers settledOrder indexed = .ok line) :
    OpensAs arith settledOrder line := by
  unfold projectLine at projects
  simp only [bind_eq_ok_iff, pure_eq_ok_iff] at projects
  obtain ⟨amount, -, still, opens, rfl⟩ := projects
  exact opens

theorem OpensAs.of_qty (opensAs : OpensAs arith settledOrder line) (isQty : line.qty = some qty) :
    ∃ difference, arith.sub qty line.qtyInvoiced = some difference ∧
      line.qtyOpen = some (orZero difference) ∧
      openPart arith line.amount qty (orZero difference) line.unitPrice = .ok line.openAmount := by
  unfold OpensAs lineOpen at opensAs
  simp only [isQty, bind_eq_ok_iff, pure_eq_ok_iff, orPanic_eq_ok_iff, Prod.mk.injEq] at opensAs
  obtain ⟨difference, subtracts, openAmount, opens, isOpen, rfl⟩ := opensAs
  exact ⟨difference, subtracts, isOpen.symm, opens⟩

theorem OpensAs.of_none (opensAs : OpensAs arith settledOrder line) (noQty : line.qty = none) :
    line.qtyOpen = none ∧
      line.openAmount = if settledOrder then Money.zero else line.amount := by
  unfold OpensAs lineOpen at opensAs
  simp only [noQty, pure_eq_ok_iff, Prod.mk.injEq] at opensAs
  exact ⟨opensAs.1.symm, opensAs.2.symm⟩

theorem OpensAs.whole (opensAs : OpensAs arith settledOrder line) (lawful : arith.Lawful)
    (isQty : line.qty = some qty) (nothing : line.qtyInvoiced.toRat = 0) :
    line.openAmount = line.amount := by
  obtain ⟨difference, subtracts, -, opens⟩ := opensAs.of_qty isQty
  have enough : qty.toRat ≤ (orZero difference).toRat := by
    rw [toRat_orZero, lawful.sub_nothing subtracts nothing]
    exact le_max_left _ _
  rcases openPart_cases opens with ⟨-, same⟩ | ⟨less, -⟩ | ⟨less, -⟩
  · exact same
  · linarith
  · linarith

theorem OpensAs.spent (opensAs : OpensAs arith settledOrder line) (isQty : line.qty = some qty)
    (positive : 0 < qty.toRat) (isOpen : line.qtyOpen = some remaining)
    (nothing : remaining.toRat ≤ 0) : line.openAmount = Money.zero := by
  obtain ⟨difference, -, openEq, opens⟩ := opensAs.of_qty isQty
  obtain rfl := Option.some.inj (openEq.symm.trans isOpen)
  rcases openPart_cases opens with ⟨enough, -⟩ | ⟨-, -, same⟩ | ⟨-, left, -⟩
  · linarith
  · exact same
  · linarith

/-- A line whose quantity, if it has one, is positive, and whose amount is no less than its
quantity at its rate; without a rate, the quantities have at most twenty-six places. -/
def PricedWithin (arith : OrderArithmetic) (line : SalesOrderLine) : Prop :=
  ∀ qty ∈ line.qty, 0 < qty.toRat ∧
    match line.unitPrice with
    | some rate => ∃ product, arith.mul qty rate = some product ∧
        Within line.amount.minor product.nearestCents
    | none => qty.scale ≤ 26 ∧ line.qtyInvoiced.scale ≤ 26

theorem PricedWithin.bounded (priced : PricedWithin arith line) (lawful : arith.Lawful)
    (isQty : line.qty = some qty) {difference : Decimal}
    (subtracts : arith.sub qty line.qtyInvoiced = some difference) :
    Bounded arith line.amount qty (orZero difference) line.unitPrice := by
  obtain ⟨-, bound⟩ := priced qty isQty
  unfold Bounded
  cases isRate : line.unitPrice with
  | some rate =>
    rw [isRate] at bound
    exact bound
  | none =>
    rw [isRate] at bound
    have coarse := (lawful.sub subtracts).2
    have ownScale := scale_orZero_le difference
    omega

theorem OpensAs.within (opensAs : OpensAs arith settledOrder line) (lawful : arith.Lawful)
    (priced : PricedWithin arith line) : Within line.amount.minor line.openAmount.minor := by
  cases isQty : line.qty with
  | none =>
    rw [(opensAs.of_none isQty).2]
    split_ifs
    · exact within_zero _
    · exact within_self _
  | some qty =>
    obtain ⟨difference, subtracts, -, opens⟩ := opensAs.of_qty isQty
    exact within_openPart lawful (priced qty isQty).1
      (priced.bounded lawful isQty subtracts) opens

/-- Of two lines that differ in what was invoiced, less is open of the one that more was
invoiced of. -/
theorem OpensAs.mono {other : SalesOrderLine} {otherSettled : Bool}
    (opensAs : OpensAs arith settledOrder line) (otherOpens : OpensAs arith otherSettled other)
    (lawful : arith.Lawful) (priced : PricedWithin arith other) (isQty : line.qty = some qty)
    (same : other.qty = line.qty ∧ other.unitPrice = line.unitPrice ∧ other.amount = line.amount)
    (more : line.qtyInvoiced.toRat ≤ other.qtyInvoiced.toRat) :
    Within line.openAmount.minor other.openAmount.minor := by
  have otherQty := same.1.trans isQty
  obtain ⟨difference, subtracts, -, opens⟩ := opensAs.of_qty isQty
  obtain ⟨fewer, otherSubtracts, -, otherOpens⟩ := otherOpens.of_qty otherQty
  have bounded := priced.bounded lawful otherQty otherSubtracts
  rw [same.2.1, same.2.2] at bounded otherOpens
  apply openPart_mono lawful (priced qty otherQty).1 bounded _ opens otherOpens
  rw [toRat_orZero, toRat_orZero]
  apply max_le_max _ (le_refl 0)
  apply lawful.sub_mono otherSubtracts subtracts
  linarith

/-! ### The order -/

/-- What an accepted order's projection says of its lines and of the order. -/
structure ProjectedFrom (arith : OrderArithmetic) (readers : FeedReaders)
    (order : FeedSalesOrder) (projected : SalesOrder) : Prop where
  lines : ∀ line ∈ projected.lines, OpensAs arith (settled readers order) line
  isOpen : projected.isOpen = true ↔ closedStatus order.orderStatus = false ∧
    0 < (projected.lines.map fun line => line.openAmount.minor).sum
  orderStatus : projected.orderStatus = nonEmpty order.orderStatus
  isDeleted : projected.isDeleted = false

theorem projectedFrom_of_fromFeed (accepts : fromFeed arith readers order = .ok projected) :
    ProjectedFrom arith readers order projected := by
  unfold fromFeed at accepts
  simp only [bind_eq_ok_iff, pure_eq_ok_iff, mapError_eq_ok_iff] at accepts
  obtain ⟨-, -, txnDate, -, lines, projects, lineTotal, -, stated, -, openAmount, sums, rfl⟩ :=
    accepts
  refine ⟨?_, ?_, rfl, rfl⟩
  · intro line lineMem
    obtain ⟨indexed, -, isLine⟩ := exists_of_mem_mapM projects lineMem
    exact opensAs_of_projectLine isLine
  · have sumEq := Money.minor_checkedSum sums
    rw [List.map_map] at sumEq
    simp only [Bool.and_eq_true, Bool.not_eq_true', decide_eq_true_eq, sumEq]
    rfl

def Ordinary (arith : OrderArithmetic) (projected : SalesOrder) : Prop :=
  ∀ line ∈ projected.lines, 0 ≤ line.amount.minor ∧ PricedWithin arith line

theorem ProjectedFrom.openAmount_nonneg (projection : ProjectedFrom arith readers order projected)
    (lawful : arith.Lawful) (ordinary : Ordinary arith projected) (lineMem : line ∈ projected.lines) :
    0 ≤ line.openAmount.minor := by
  obtain ⟨notNegative, priced⟩ := ordinary line lineMem
  have within := (projection.lines line lineMem).within lawful priced
  unfold Within at within
  omega

theorem ProjectedFrom.isOpen_iff_exists (projection : ProjectedFrom arith readers order projected)
    (lawful : arith.Lawful) (ordinary : Ordinary arith projected) :
    projected.isOpen = true ↔ closedStatus order.orderStatus = false ∧
      ∃ line ∈ projected.lines, line.openAmount.minor ≠ 0 := by
  have notNegative : ∀ line ∈ projected.lines, 0 ≤ line.openAmount.minor :=
    fun line lineMem => projection.openAmount_nonneg lawful ordinary lineMem
  rw [projection.isOpen]
  apply and_congr_right
  intro _
  constructor
  · intro positive
    by_contra none
    push Not at none
    have zero : (projected.lines.map fun line => line.openAmount.minor).sum = 0 :=
      List.sum_eq_zero (by simpa using none)
    omega
  · rintro ⟨line, lineMem, something⟩
    have atLeast := List.single_le_sum
      (l := projected.lines.map fun line => line.openAmount.minor)
      (by simpa using notNegative) line.openAmount.minor
      (List.mem_map.mpr ⟨line, lineMem, rfl⟩)
    have own := notNegative line lineMem
    omega

def StillOpen (line : SalesOrderLine) : Prop :=
  line.openAmount.minor ≠ 0 ∧ ∀ qty ∈ line.qtyOpen, 0 < qty.mantissa

instance (line : SalesOrderLine) : Decidable (StillOpen line) :=
  inferInstanceAs (Decidable (_ ∧ ∀ _ ∈ _, _))

def NoneLater (projected : SalesOrder) (asOf : Date) (invoiceDates : String → Option Date) :
    Prop :=
  ∀ line ∈ projected.lines, ∀ id ∈ line.invoiceIds, ∀ dated ∈ invoiceDates id, dated ≤ asOf

variable {asOf : Date} {invoiceDates : String → Option Date}

theorem openLineAsOf_eq (noneLater : NoneLater projected asOf invoiceDates)
    (lineMem : line ∈ projected.lines) :
    openLineAsOf asOf invoiceDates line =
      if StillOpen line then some (line, line.qtyOpen, line.openAmount) else none := by
  have notLater : invoicedLater asOf invoiceDates line = false := by
    unfold invoicedLater
    cases ids : line.invoiceIds with
    | nil => rfl
    | cons id rest =>
      have isKnown := noneLater line lineMem id (by simp [ids])
      cases dated : invoiceDates id with
      | none => simp [dated]
      | some date => simp [dated, isKnown date dated]
  unfold openLineAsOf StillOpen
  simp only [notLater, Bool.false_eq_true, if_false]
  refine if_congr ?_ rfl rfl
  cases line.qtyOpen with
  | none => simp
  | some qty => simp [and_comm]

theorem ProjectedFrom.openLinesAsOf_eq (projection : ProjectedFrom arith readers order projected)
    (noneLater : NoneLater projected asOf invoiceDates) :
    projected.openLinesAsOf asOf invoiceDates =
      if asOf < projected.txnDate ∨ closedStatus projected.orderStatus = true then []
      else (projected.lines.filter StillOpen).map fun line =>
        (line, line.qtyOpen, line.openAmount) := by
  have listed : projected.lines.filterMap (openLineAsOf asOf invoiceDates) =
      (projected.lines.filter StillOpen).map fun line =>
        (line, line.qtyOpen, line.openAmount) := by
    rw [← List.filterMap_eq_map, List.filterMap_filter]
    apply List.filterMap_congr
    intro line lineMem
    rw [openLineAsOf_eq noneLater lineMem]
    simp
  unfold SalesOrder.openLinesAsOf
  rw [projection.isDeleted, listed]
  simp only [Bool.false_or, Bool.or_eq_true, decide_eq_true_eq]

/-- None are listed of an order of ordinary lines exactly when it is not open, from its
date on; and a status is read without the white space around it. -/
theorem ProjectedFrom.openLinesAsOf_eq_nil_iff
    (projection : ProjectedFrom arith readers order projected) (lawful : arith.Lawful)
    (ordinary : Ordinary arith projected) (noneLater : NoneLater projected asOf invoiceDates)
    (issued : projected.txnDate ≤ asOf)
    (sameStatus : closedStatus projected.orderStatus = closedStatus order.orderStatus) :
    projected.openLinesAsOf asOf invoiceDates = [] ↔ projected.isOpen = false := by
  have stillOpen_iff : ∀ line ∈ projected.lines,
      (StillOpen line ↔ line.openAmount.minor ≠ 0) := by
    intro line lineMem
    refine ⟨And.left, fun something => ⟨something, ?_⟩⟩
    intro remaining isOpen
    by_contra nothing
    have left : remaining.toRat ≤ 0 := by
      rw [← not_lt, Decimal.toRat_pos_iff]
      exact nothing
    cases isQty : line.qty with
    | none => 
      rw [((projection.lines line lineMem).of_none isQty).1] at isOpen
      cases isOpen
    | some qty =>
      apply something
      rw [(projection.lines line lineMem).spent isQty ((ordinary line lineMem).2 qty isQty).1
        isOpen left]
      rfl
  rw [projection.openLinesAsOf_eq noneLater, sameStatus, ← Bool.not_eq_true,
    projection.isOpen_iff_exists lawful ordinary]
  cases isClosed : closedStatus order.orderStatus with
  | true => simp
  | false =>
    rw [if_neg (by simp [not_lt.mpr issued]), List.map_eq_nil_iff, List.filter_eq_nil_iff]
    simp only [true_and, not_exists, not_and, decide_eq_true_eq, not_not]
    constructor
    · intro none line lineMem
      by_contra something
      exact none line lineMem ((stillOpen_iff line lineMem).mpr something)
    · intro none line lineMem isOpen
      exact (stillOpen_iff line lineMem).mp isOpen (none line lineMem)

/-- What is open of an order and of its lines. -/
structure OpensProperly (arith : OrderArithmetic) (readers : FeedReaders)
    (order : FeedSalesOrder) (projected : SalesOrder) : Prop where
  whole : ∀ line ∈ projected.lines, line.qty ≠ none → line.qtyInvoiced.toRat = 0 →
    line.openAmount = line.amount
  unquantified : ∀ line ∈ projected.lines, line.qty = none →
    line.openAmount = if settled readers order then Money.zero else line.amount
  spent : ∀ line ∈ projected.lines, ∀ qty ∈ line.qty, 0 < qty.toRat →
    ∀ remaining ∈ line.qtyOpen, remaining.toRat = 0 → line.openAmount = Money.zero
  within : ∀ line ∈ projected.lines, PricedWithin arith line →
    Within line.amount.minor line.openAmount.minor
  isOpen_iff : projected.isOpen = true ↔ closedStatus order.orderStatus = false ∧
    0 < (projected.lines.map fun line => line.openAmount.minor).sum
  isOpen_iff_exists : Ordinary arith projected → (projected.isOpen = true ↔
    closedStatus order.orderStatus = false ∧
      ∃ line ∈ projected.lines, line.openAmount.minor ≠ 0)
  listed : ∀ asOf invoiceDates, NoneLater projected asOf invoiceDates →
    projected.openLinesAsOf asOf invoiceDates =
      if asOf < projected.txnDate ∨ closedStatus projected.orderStatus = true then []
      else (projected.lines.filter StillOpen).map fun line =>
        (line, line.qtyOpen, line.openAmount)
  listed_eq_nil_iff : Ordinary arith projected →
    closedStatus projected.orderStatus = closedStatus order.orderStatus →
      ∀ asOf invoiceDates, NoneLater projected asOf invoiceDates → projected.txnDate ≤ asOf →
        (projected.openLinesAsOf asOf invoiceDates = [] ↔ projected.isOpen = false)

/-- Every accepted order opens properly, and of a line of which more was invoiced no more
is open. -/
theorem fromFeed_opensProperly (lawful : arith.Lawful) :
    (∀ order projected, fromFeed arith readers order = .ok projected →
      OpensProperly arith readers order projected) ∧
    ∀ order projected later laterProjected,
      fromFeed arith readers order = .ok projected →
      fromFeed arith readers later = .ok laterProjected →
        ∀ line ∈ projected.lines, ∀ other ∈ laterProjected.lines, line.qty ≠ none →
          other.qty = line.qty ∧ other.unitPrice = line.unitPrice ∧ other.amount = line.amount →
          PricedWithin arith other → line.qtyInvoiced.toRat ≤ other.qtyInvoiced.toRat →
            Within line.openAmount.minor other.openAmount.minor := by
  constructor
  · intro order projected accepts
    have projection := projectedFrom_of_fromFeed accepts
    constructor
    · intro line lineMem hasQty nothing
      obtain ⟨qty, isQty⟩ := Option.ne_none_iff_exists'.mp hasQty
      exact (projection.lines line lineMem).whole lawful isQty nothing
    · intro line lineMem noQty
      exact ((projection.lines line lineMem).of_none noQty).2
    · intro line lineMem qty isQty positive remaining isOpen nothing
      exact (projection.lines line lineMem).spent isQty positive isOpen nothing.le
    · intro line lineMem priced
      exact (projection.lines line lineMem).within lawful priced
    · exact projection.isOpen
    · exact projection.isOpen_iff_exists lawful
    · intro asOf invoiceDates noneLater
      exact projection.openLinesAsOf_eq noneLater
    · intro ordinary sameStatus asOf invoiceDates noneLater issued
      exact projection.openLinesAsOf_eq_nil_iff lawful ordinary noneLater issued sameStatus
  · intro order projected later laterProjected accepts laterAccepts line lineMem other otherMem
      hasQty same priced more
    obtain ⟨qty, isQty⟩ := Option.ne_none_iff_exists'.mp hasQty
    exact ((projectedFrom_of_fromFeed accepts).lines line lineMem).mono
      ((projectedFrom_of_fromFeed laterAccepts).lines other otherMem) lawful priced isQty same more

section Examples

/-- Decimals whose results are given where they are exact. -/
def exactArithmetic : OrderArithmetic where
  mul first second := (first.mul? second).filter fun product =>
    product.toRat = first.toRat * second.toRat
  div dividend divisor := (dividend.div? divisor).filter fun quotient =>
    divisor.mantissa ≠ 0 ∧ quotient.toRat = dividend.toRat / divisor.toRat
  sub first second := (first.addNearest? second.negated).filter fun difference =>
    difference.toRat = first.toRat - second.toRat ∧
      difference.scale ≤ max first.scale second.scale

theorem lawful_exactArithmetic : exactArithmetic.Lawful := by
  have mulExact {first second product : Decimal}
      (multiplies : exactArithmetic.mul first second = some product) :
      product.toRat = first.toRat * second.toRat :=
    of_decide_eq_true (Option.filter_eq_some_iff.mp multiplies).2
  have divExact {dividend divisor quotient : Decimal}
      (divides : exactArithmetic.div dividend divisor = some quotient) :
      divisor.mantissa ≠ 0 ∧ quotient.toRat = dividend.toRat / divisor.toRat :=
    of_decide_eq_true (Option.filter_eq_some_iff.mp divides).2
  have subExact {first second difference : Decimal}
      (subtracts : exactArithmetic.sub first second = some difference) :
      difference.toRat = first.toRat - second.toRat ∧
        difference.scale ≤ max first.scale second.scale :=
    of_decide_eq_true (Option.filter_eq_some_iff.mp subtracts).2
  constructor
  · intro first second product multiplies
    exact isNearest_of_eq (mulExact multiplies)
  · intro first second product third fourth other multiplies multipliesOther less
    rwa [mulExact multiplies, mulExact multipliesOther]
  · intro dividend divisor quotient divides
    exact ⟨(divExact divides).1, isNearest_of_eq (divExact divides).2⟩
  · intro first second quotient third fourth other divides dividesOther less
    rwa [(divExact divides).2, (divExact dividesOther).2]
  · intro first second difference subtracts
    exact ⟨isNearest_of_eq (subExact subtracts).1, (subExact subtracts).2⟩
  · intro first second difference third fourth other subtracts subtractsOther less
    rwa [(subExact subtracts).1, (subExact subtractsOther).1]
  · intro first second difference subtracts nothing
    rw [(subExact subtracts).1, nothing, sub_zero]

/-- Numerals, and dates of one day. -/
def plainReaders : FeedReaders where
  decimalFromStr := readPlainly
  decimalFromScientific _ := none
  dateFromYmd text := if text = "2026-10-13" then some ⟨2026, 10, 13, Eq.refl true⟩ else none
  quoted text := text
  jsonText _ := ""

def feedLine (quantity rate amount consumed : ℤ) : FeedLine where
  id := none
  itemId := some "10"
  description := none
  quantity := some (.number (.integer quantity))
  rate := some (.number (.integer rate))
  amount := some (.number (.integer amount))
  taxable := none
  quantityConsumedInInvoices := some (.number (.integer consumed))
  invoiceIds := []

def feedOrder (lines : List FeedLine) : FeedSalesOrder where
  id := "1490000001"
  orderNumber := some "1001"
  issuedAt := "2026-10-13T07:00:00Z"
  customerId := some "58"
  customerName := none
  customerPoNumber := none
  dueDate := none
  shipDate := none
  orderStatus := some "OPEN"
  paymentStatus := some "PARTIALLY_INVOICED"
  fulfillmentStatus := none
  totalAmount := none
  totalDiscount := none
  totalShipping := none
  memo := none
  version := none
  lines := lines
  invoiceIds := []

/-- More than the amount of a discounted line is open when a part of it was invoiced; and
an order is not open when a line to be credited makes up for the one to be invoiced. -/
theorem open_part_exceeds_the_amount :
    (¬ ∀ order projected, fromFeed exactArithmetic plainReaders order = .ok projected →
      ∀ line ∈ projected.lines, Within line.amount.minor line.openAmount.minor) ∧
    ¬ ∀ order projected, fromFeed exactArithmetic plainReaders order = .ok projected →
      (projected.isOpen = true ↔ closedStatus order.orderStatus = false ∧
        ∃ line ∈ projected.lines, line.openAmount.minor ≠ 0) := by
  constructor
  · intro always
    have evaluates : (fromFeed exactArithmetic plainReaders
        (feedOrder [feedLine 10 100 500 1])).toOption.map (fun projected =>
          projected.lines.map fun line => (line.amount.minor, line.openAmount.minor)) =
            some [(50000, 90000)] := by
      decide +kernel
    obtain ⟨projected, accepts, parts⟩ := exists_ok_of_map_toOption evaluates
    obtain ⟨line, lineMem, isPart⟩ : ∃ line ∈ projected.lines,
        (line.amount.minor, line.openAmount.minor) = (50000, 90000) := by
      rw [← List.mem_map, parts]
      exact List.mem_singleton_self _
    have within := always _ projected accepts line lineMem
    obtain ⟨amountEq, openEq⟩ := Prod.mk.inj isPart
    rw [amountEq, openEq] at within
    unfold Within at within
    omega
  · intro always
    have evaluates : (fromFeed exactArithmetic plainReaders
        (feedOrder [feedLine 1 100 100 0, feedLine 1 (-100) (-100) 0])).toOption.map
          (fun projected => (projected.isOpen,
            projected.lines.map fun line => line.openAmount.minor)) =
              some (false, [10000, -10000]) := by
      decide +kernel
    obtain ⟨projected, accepts, parts⟩ := exists_ok_of_map_toOption evaluates
    obtain ⟨notOpen, opens⟩ := Prod.mk.inj parts
    obtain ⟨line, lineMem, isOpen⟩ : ∃ line ∈ projected.lines, line.openAmount.minor = 10000 := by
      rw [← List.mem_map, opens]
      exact List.mem_cons_self
    have opensSo := (always _ projected accepts).mpr
      ⟨by decide +kernel, line, lineMem, by omega⟩
    rw [notOpen] at opensSo
    cases opensSo

/-- Half of an order's first line was invoiced, and it is open. -/
theorem fromFeed_opensProperly_half : ∃ projected,
    fromFeed exactArithmetic plainReaders (feedOrder [feedLine 2 100 200 1]) = .ok projected ∧
      projected.lines.map (fun line => (line.amount.minor, line.openAmount.minor)) =
        [(20000, 10000)] ∧
      OpensProperly exactArithmetic plainReaders (feedOrder [feedLine 2 100 200 1]) projected := by
  have evaluates : (fromFeed exactArithmetic plainReaders
      (feedOrder [feedLine 2 100 200 1])).toOption.map (fun projected =>
        projected.lines.map fun line => (line.amount.minor, line.openAmount.minor)) =
          some [(20000, 10000)] := by
    decide +kernel
  obtain ⟨projected, accepts, parts⟩ := exists_ok_of_map_toOption evaluates
  exact ⟨projected, accepts, parts,
    (fromFeed_opensProperly lawful_exactArithmetic).1 _ projected accepts⟩

end Examples

end OrderFeeds

end QuickBooks
